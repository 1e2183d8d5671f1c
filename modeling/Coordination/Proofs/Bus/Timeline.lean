import Coordination.Bus.Basic
import Coordination.Proofs.Bus.Completion

/-!
# Timelines that close

A script that closes acts out all of its steps up to the close, and the timeline of it is closed
once the last message is taken (`closesWithin`). Each answer of the timeline is a message or
brings the last step nearer, unless the bound on the wait is zero while there is still something
to be waited for.
-/

namespace Coordination

namespace Script

/-- The publisher goes away at some time. -/
def Closes (s : Script) : Prop := ∃ item ∈ s, item.2 = .close

/-- How many publishers go away. -/
def closings (s : Script) : Nat := s.countP fun item => item.2 = .close

theorem untilClose_prefix (s : Script) : s.untilClose <+: s := by
  induction s with
  | nil => exact List.prefix_refl _
  | cons item s ih =>
    obtain ⟨time, happening⟩ := item
    cases happening with
    | close => exact ⟨s, rfl⟩
    | publish m => exact (List.prefix_cons_inj _).2 ih
    | cancel => exact (List.prefix_cons_inj _).2 ih

theorem published_sublist (s : Script) : s.published.Sublist s :=
  List.filter_sublist.trans s.untilClose_prefix.sublist

theorem untilClose_of_closes {s : Script} (h : s.Closes) :
    ∃ before time, s.untilClose = before ++ [(time, .close)] ∧ closings before = 0 := by
  induction s with
  | nil =>
    obtain ⟨item, hmem, _⟩ := h
    simp at hmem
  | cons item s ih =>
    obtain ⟨time, happening⟩ := item
    have hrest : happening ≠ .close → Closes s := by
      intro hne
      obtain ⟨x, hx, hclose⟩ := h
      rcases List.mem_cons.1 hx with rfl | hx
      · exact absurd hclose hne
      · exact ⟨x, hx, hclose⟩
    cases happening with
    | close => exact ⟨[], time, rfl, rfl⟩
    | publish m =>
      obtain ⟨before, last, hs, hb⟩ := ih (hrest (by simp))
      exact ⟨(time, .publish m) :: before, last, by simp [untilClose, hs], hb⟩
    | cancel =>
      obtain ⟨before, last, hs, hb⟩ := ih (hrest (by simp))
      exact ⟨(time, .cancel) :: before, last, by simp [untilClose, hs], hb⟩

/-- What the publisher of a script that closes does ends with its only close. -/
theorem published_of_closes {s : Script} (h : s.Closes) :
    ∃ before time, s.published = before ++ [(time, .close)] ∧ closings before = 0 := by
  obtain ⟨before, time, hs, hb⟩ := untilClose_of_closes h
  refine ⟨before.filter fun item => item.2 ≠ .cancel, time, ?_, ?_⟩
  · rw [published, hs, List.filter_append]
    rfl
  · have := (List.filter_sublist (p := fun item : Nat × Happening => item.2 ≠ .cancel)
      (l := before)).countP_le (p := fun item => item.2 = .close)
    exact Nat.le_zero.1 (this.trans hb.le)

theorem le_horizon {s : Script} {item : Nat × Happening} (h : item ∈ s) :
    item.1 ≤ s.horizon := by
  have key : ∀ (s : Script) (k : Nat), k ≤ s.foldl (fun t x => max t x.1) k ∧
      ∀ item ∈ s, item.1 ≤ s.foldl (fun t x => max t x.1) k := by
    intro s
    induction s with
    | nil => exact fun k => ⟨le_rfl, by simp⟩
    | cons x s ih =>
      intro k
      obtain ⟨hk, hs⟩ := ih (max k x.1)
      refine ⟨(Nat.le_max_left _ _).trans hk, ?_⟩
      intro item hitem
      rcases List.mem_cons.1 hitem with rfl | hitem
      · exact (Nat.le_max_right _ _).trans hk
      · exact hs item hitem
  exact (key s 0).2 item h

end Script

namespace Timeline

/-- The publishers are those that are still going to leave, and nothing happens after the last
of them has left. -/
structure Closes (t : Timeline) : Prop where
  hasSource : t.pipe.hasSource = true
  publishers : t.pipe.publishers = t.upcoming.closings
  last : ∀ item ∈ t.upcoming.getLast?, item.2 = .close

/-- What waits and what is upcoming, counted together. -/
def size (t : Timeline) : Nat := t.pipe.waiting.length + t.upcoming.length

theorem closes_ofScript {s : Script} (h : s.Closes) : (ofScript s).Closes := by
  obtain ⟨before, time, hs, hb⟩ := Script.published_of_closes h
  refine ⟨rfl, ?_, ?_⟩
  · show 1 = s.published.closings
    rw [hs, Script.closings, List.countP_append, ← Script.closings, hb]
    rfl
  · intro item hitem
    have hitem : item ∈ s.published.getLast? := hitem
    rw [hs, List.getLast?_concat, Option.mem_some_iff] at hitem
    rw [← hitem]

theorem publishers_foldl_apply (p : Pipe) (s : Script) :
    (s.foldl (fun p item => apply p item.2) p).publishers = p.publishers - s.closings := by
  induction s generalizing p with
  | nil => rfl
  | cons item s ih =>
    obtain ⟨time, happening⟩ := item
    rw [List.foldl_cons, ih, Script.closings, Script.closings, List.countP_cons]
    cases happening with
    | publish m => cases hp : p.hasSource <;> simp [apply, Pipe.publish, hp]
    | close => simp [apply, Pipe.dropPublisher, Nat.sub_sub, Nat.add_comm]
    | cancel => simp [apply]

/-- A publisher that has left is not upcoming any more. -/
theorem Closes.advance {t : Timeline} (h : t.Closes) (now : Nat) : (t.advance now).Closes := by
  have hsplit := due_append_upcoming t now
  refine ⟨(hasSource_advance t now).trans h.hasSource, ?_, ?_⟩
  · refine (publishers_foldl_apply t.pipe (t.due now)).trans ?_
    rw [h.publishers, Script.closings, ← hsplit, List.countP_append]
    exact Nat.add_sub_cancel_left _ _
  · intro item hitem
    refine h.last item ?_
    rw [← hsplit, List.getLast?_append, Option.mem_def.1 hitem]
    rfl

theorem size_advance_le (t : Timeline) (now : Nat) : (t.advance now).size ≤ t.size := by
  have hlen := congrArg List.length (due_append_upcoming t now)
  have hdue : (t.due now).messages.length ≤ (t.due now).length := List.length_filterMap_le _ _
  rw [size, size, waiting_advance]
  rw [List.length_append] at hlen ⊢
  split
  · omega
  · rw [List.length_nil]
    omega

/-- What is upcoming after `now` comes later than `now`. -/
theorem lt_of_upcoming_advance {t : Timeline} {now : Nat} {item : Nat × Happening}
    {rest : Script} (h : (t.advance now).upcoming = item :: rest) : now < item.1 := by
  have := List.head?_dropWhile_not (fun x : Nat × Happening => decide (x.1 ≤ now)) t.upcoming
  rw [show t.upcoming.dropWhile (fun x => decide (x.1 ≤ now)) = item :: rest from h] at this
  simpa using this

theorem mem_upcoming_advance {t : Timeline} {now : Nat} {item : Nat × Happening}
    (h : item ∈ (t.advance now).upcoming) : item ∈ t.upcoming :=
  (List.dropWhile_suffix _).mem h

/-- A timeline without upcoming steps that closes has no publisher any more. -/
theorem Closes.upcoming_ne_nil_iff {t : Timeline} (h : t.Closes) :
    t.upcoming ≠ [] ↔ t.pipe.publishers ≠ 0 := by
  constructor
  · intro hne hp
    have hlast := List.getLast?_eq_some_getLast hne
    have hpos : 0 < t.upcoming.closings := List.countP_pos_iff.2
      ⟨_, List.getLast_mem hne, decide_eq_true (h.last _ hlast)⟩
    exact absurd (h.publishers.symm.trans hp) hpos.ne'
  · intro hp hnil
    exact hp (by rw [h.publishers, hnil]; rfl)

/-- The pipe's answer, once all that is due has happened. -/
theorem Closes.answers {P : Nat → Timeline → List Message → Nat → Prop} {t : Timeline}
    (h : t.Closes) (time wait limit : Nat)
    (message : ∀ u : Timeline, u.Closes → u.size < t.size → u.upcoming = t.upcoming →
      P (time + wait) u u.left 0)
    (nothing : t.pipe.recv limit = ⟨limit, .nothing, t.pipe⟩ → t.upcoming ≠ [] →
      P (time + wait) t t.left 0) :
    Source.Answers P time
      ⟨wait, (t.pipe.recv limit).arrival, { t with pipe := (t.pipe.recv limit).rest }⟩
      t.left 0 := by
  cases hw : t.pipe.waiting with
  | cons m waiting =>
    have hrecv : t.pipe.recv limit = ⟨0, .message m, { t.pipe with waiting }⟩ := by
      rw [Pipe.recv, hw]
    let u : Timeline := { t with pipe := { t.pipe with waiting } }
    have hleft : t.left = m :: u.left := by simp [left, hw, u]
    rw [hrecv, hleft]
    refine ⟨u.left, rfl, message u ⟨h.hasSource, h.publishers, h.last⟩ ?_ rfl⟩
    simp [u, size, hw]
  | nil =>
    by_cases hne : t.upcoming = []
    · have hp : t.pipe.publishers = 0 := by
        by_contra hp
        exact h.upcoming_ne_nil_iff.2 hp hne
      have hrecv : t.pipe.recv limit = ⟨0, .closed, t.pipe⟩ := by
        simp only [Pipe.recv, hw, if_pos hp]
      rw [hrecv]
      exact ⟨by simp [left, hw, hne], rfl⟩
    · have hrecv : t.pipe.recv limit = ⟨limit, .nothing, t.pipe⟩ := by
        simp only [Pipe.recv, hw, if_neg (h.upcoming_ne_nil_iff.1 hne)]
      rw [hrecv]
      exact nothing hrecv hne

/-- A timeline that closes answers with a message, or with a wait of at least a millisecond that
brings its last step nearer, until it is closed. -/
theorem closesWithin {limit n now : Nat} (horizon : Nat) (hlimit : 1 ≤ limit ∨ horizon ≤ now)
    {t : Timeline} (h : t.Closes) (hhorizon : ∀ item ∈ t.upcoming, item.1 ≤ horizon)
    (hn : t.size + (horizon - now) < n) :
    Source.ClosesWithin limit n now t t.left 0 := by
  induction n generalizing now t with
  | zero => omega
  | succ n ih =>
    intro time hnow
    show Source.Answers _ time (t.recv time limit) _ _
    have hu : (t.advance time).Closes := h.advance time
    have hsize := size_advance_le t time
    have next : ∀ (later : Nat) (v : Timeline), time ≤ later → v.Closes →
        (∀ item ∈ v.upcoming, item ∈ t.upcoming) → v.size + (horizon - later) < n →
        Source.ClosesWithin limit n later v v.left 0 := by
      intro later v hlater hv hsub hvn
      exact ih (hlimit.imp_right fun hle => hle.trans (hnow.trans hlater)) hv
        (fun item hitem => hhorizon item (hsub item hitem)) hvn
    have hsub : ∀ item ∈ (t.advance time).upcoming, item ∈ t.upcoming :=
      fun item => mem_upcoming_advance
    rw [← left_advance t time, recv]
    split
    · rename_i due _ _ harrival hupcoming
      have hlt : time < due := lt_of_upcoming_advance hupcoming
      have hle : due ≤ horizon := hhorizon _ (hsub _ (hupcoming ▸ List.mem_cons_self))
      split
      · have hsize' := size_advance_le (t.advance time) due
        rw [← left_advance (t.advance time) due]
        refine (hu.advance due).answers time _ 0 ?_ ?_
        · intro v hv hvsize hvup
          refine next _ v (Nat.le_add_right _ _) hv ?_ (by omega)
          intro item hitem
          exact hsub item (mem_upcoming_advance (hvup ▸ hitem))
        · intro _ _
          refine next _ _ (Nat.le_add_right _ _) (hu.advance due) ?_ (by omega)
          exact fun item hitem => hsub item (mem_upcoming_advance hitem)
      · rw [← harrival]
        refine hu.answers time _ limit ?_ ?_
        · intro v hv hvsize hvup
          exact next _ v (Nat.le_add_right _ _) hv (hvup ▸ hsub) (by omega)
        · intro hrecv _
          rw [hrecv]
          exact next (time + limit) _ (Nat.le_add_right _ _) hu hsub (by omega)
    · rename_i hother
      refine hu.answers time _ limit ?_ ?_
      · intro v hv hvsize hvup
        exact next _ v (Nat.le_add_right _ _) hv (hvup ▸ hsub) (by omega)
      · intro hrecv hne
        obtain ⟨item, rest, hup⟩ := List.exists_cons_of_ne_nil hne
        exact (hother item.1 item.2 rest (by rw [hrecv]) hup).elim

/-- A script that closes is acted out within its budget of turns. -/
theorem closesWithin_ofScript {limit : Nat} {s : Script} (h : s.Closes)
    (hlimit : 1 ≤ limit ∨ s.horizon = 0) :
    Source.ClosesWithin limit s.turnBudget 0 (ofScript s) s.published.messages 0 := by
  have hsub := s.published_sublist
  have hleft : (ofScript s).left = s.published.messages := List.nil_append _
  rw [← hleft]
  refine closesWithin s.horizon (hlimit.imp_right Eq.le) (closes_ofScript h) ?_ ?_
  · exact fun item hitem => Script.le_horizon (hsub.subset hitem)
  · have hlen : (ofScript s).size = s.published.length := Nat.zero_add _
    have := hsub.length_le
    rw [hlen, Script.turnBudget]
    omega

end Timeline

namespace Run

variable {ω : Type}

/-- A run over a script that closes completes with what is published. -/
theorem completes_script (bus : Bus ω) (pace : Pace) {w : ω} {script : Script}
    (hpace : 1 ≤ pace.pollTimeout ∨ script.horizon = 0) (hclose : script.Closes)
    (hcancel : script.cancelTime? = none)
    (hquiet : bus.registry.Quiet w script.published.messages) :
    (bus.runScript pace script w).Completes bus.registry w bus.counters
      script.published.messages 0 := by
  rw [Bus.runScript, hcancel]
  exact completes_of_closing bus.registry pace
    (Timeline.closesWithin_ofScript hclose hpace) hquiet

end Run

end Coordination
