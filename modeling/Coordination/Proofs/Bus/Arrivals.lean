import Coordination.Proofs.Bus.Timeline
import Mathlib.Data.List.TakeWhile

/-!
# Waiting for the next message

Over the in-process transport each message is received at the first wait that reaches its arrival:
at once if it has arrived, else at the instant of its arrival, unless the wait is over before
(`Timeline.Awaits.recv`). Messages that have arrived are queued and the others are still to be
published, so what is left to be received, with the times of its arrivals, is known at every
instant and stays the same as time goes by (`Timeline.Awaits`).
-/

namespace Coordination

/-! ## Arrivals of a script -/

namespace Script

/-- The messages that are going to be published, each with its time. -/
def arrivals (s : Script) : List (Nat × Message) :=
  s.filterMap fun (time, happening) => match happening with
    | .publish m => some (time, m)
    | .close | .cancel => none

theorem arrivals_append (s t : Script) : arrivals (s ++ t) = arrivals s ++ arrivals t :=
  List.filterMap_append

theorem map_snd_arrivals (s : Script) : s.arrivals.map Prod.snd = s.messages := by
  rw [arrivals, messages, List.map_filterMap]
  congr 1
  funext ⟨time, happening⟩
  cases happening <;> rfl

/-- The times ascend and nothing happens after the publisher's end. -/
def Orderly (s : Script) : Prop := s.Pairwise fun a b => a.1 ≤ b.1 ∧ a.2 ≠ .close

theorem pairwise_untilClose (s : Script) : s.untilClose.Pairwise fun a _ => a.2 ≠ .close := by
  induction s with
  | nil => exact List.Pairwise.nil
  | cons item s ih =>
    obtain ⟨time, happening⟩ := item
    cases happening with
    | close => exact List.pairwise_singleton _ _
    | publish m => exact List.pairwise_cons.2 ⟨fun _ _ => by simp, ih⟩
    | cancel => exact List.pairwise_cons.2 ⟨fun _ _ => by simp, ih⟩

/-- What the publisher of an ascending script does is in order. -/
theorem orderly_published {s : Script} (h : s.Pairwise fun a b => a.1 ≤ b.1) :
    s.published.Orderly := by
  refine List.Pairwise.and ?_ ?_
  · exact h.sublist s.published_sublist
  · exact s.pairwise_untilClose.sublist List.filter_sublist

theorem exists_of_mem_arrivals {s : Script} {x : Nat × Message} (h : x ∈ s.arrivals) :
    ∃ item ∈ s, item.1 = x.1 := by
  obtain ⟨⟨time, happening⟩, hitem, hx⟩ := List.mem_filterMap.1 h
  cases happening with
  | publish m => exact ⟨_, hitem, by rw [← Option.some.inj hx]⟩
  | close | cancel => cases hx

/-- A message arrives no earlier than the first thing happens. -/
theorem le_of_mem_arrivals {item : Nat × Happening} {s : Script} (h : Orderly (item :: s))
    {x : Nat × Message} (hx : x ∈ arrivals (item :: s)) : item.1 ≤ x.1 := by
  obtain ⟨y, hy, hyx⟩ := exists_of_mem_arrivals hx
  rcases List.mem_cons.1 hy with rfl | hy
  · exact hyx.le
  · exact ((List.pairwise_cons.1 h).1 y hy).1.trans hyx.le

end Script

/-! ## What is still to arrive -/

namespace Timeline

/-- At `now` the messages `as` are left, each with the time of its arrival; those that wait have
arrived, and the publisher comes to its end after the last of them. -/
structure Awaits (t : Timeline) (now : Nat) (as : List (Nat × Message)) : Prop where
  hasSource : t.pipe.hasSource = true
  orderly : t.upcoming.Orderly
  publishers : t.pipe.publishers = 0 → t.upcoming.arrivals = []
  split : ∃ queued : List (Nat × Message), queued.map Prod.snd = t.pipe.waiting ∧
    (∀ x ∈ queued, x.1 ≤ now) ∧ as = queued ++ t.upcoming.arrivals

namespace Awaits

variable {t : Timeline} {now : Nat} {as : List (Nat × Message)} (h : t.Awaits now as)
include h

theorem later {time : Nat} (hle : now ≤ time) : t.Awaits time as := by
  obtain ⟨queued, hqueued, hpast, has⟩ := h.split
  exact ⟨h.hasSource, h.orderly, h.publishers, queued, hqueued,
    fun x hx => (hpast x hx).trans hle, has⟩

/-- What becomes due is queued behind what waits. -/
theorem advance {time : Nat} (hle : now ≤ time) : (t.advance time).Awaits time as := by
  have hsplit := due_append_upcoming t time
  have horderly := h.orderly
  rw [← hsplit] at horderly
  obtain ⟨queued, hqueued, hpast, has⟩ := h.split
  refine ⟨(hasSource_advance t time).trans h.hasSource,
    (List.pairwise_append.1 horderly).2.1, ?_, queued ++ (t.due time).arrivals, ?_, ?_, ?_⟩
  · intro hnone
    have hpublishers : t.pipe.publishers - (t.due time).closings = 0 :=
      (publishers_foldl_apply t.pipe (t.due time)).symm.trans hnone
    by_cases hclosings : (t.due time).closings = 0
    · have hall := h.publishers (by omega)
      rw [← hsplit, Script.arrivals_append] at hall
      exact (List.append_eq_nil_iff.1 hall).2
    · obtain ⟨last, hlast, hclose⟩ := List.countP_pos_iff.1 (Nat.pos_of_ne_zero hclosings)
      have hnil : (t.advance time).upcoming = [] := by
        refine List.eq_nil_iff_forall_not_mem.2 fun item hitem => ?_
        exact ((List.pairwise_append.1 horderly).2.2 last hlast item hitem).2
          (of_decide_eq_true hclose)
      rw [hnil]
      rfl
  · rw [List.map_append, hqueued, Script.map_snd_arrivals, waiting_advance, h.hasSource, if_pos rfl]
  · intro x hx
    rcases List.mem_append.1 hx with hx | hx
    · exact (hpast x hx).trans hle
    · obtain ⟨item, hitem, htime⟩ := Script.exists_of_mem_arrivals hx
      have hdue := List.mem_takeWhile_imp (p := fun x : Nat × Happening => decide (x.1 ≤ time)) hitem
      exact htime ▸ of_decide_eq_true hdue
  · rw [has, ← hsplit, Script.arrivals_append, List.append_assoc]

/-- The oldest message that waits is the next. -/
theorem of_waiting {m : Message} {waiting : List Message} (hw : t.pipe.waiting = m :: waiting) :
    ∃ time rest, as = (time, m) :: rest ∧ time ≤ now ∧
      Awaits { t with pipe := { t.pipe with waiting } } now rest := by
  obtain ⟨queued, hqueued, hpast, has⟩ := h.split
  rw [hw] at hqueued
  obtain ⟨⟨time, m'⟩, queued, rfl, rfl, rfl⟩ := List.map_eq_cons_iff.1 hqueued
  refine ⟨time, queued ++ t.upcoming.arrivals, has, hpast _ List.mem_cons_self, ?_⟩
  exact ⟨h.hasSource, h.orderly, h.publishers, queued, rfl,
    fun x hx => hpast x (List.mem_cons_of_mem _ hx), rfl⟩

theorem of_not_waiting (hw : t.pipe.waiting = []) : as = t.upcoming.arrivals := by
  obtain ⟨queued, hqueued, -, has⟩ := h.split
  rw [hw, List.map_eq_nil_iff] at hqueued
  rw [has, hqueued, List.nil_append]

/-- What is answered to a wait from `now` on for at most `limit`. A wait for nothing takes time, if
it may, and is over when the next message arrives. -/
def Answers (now limit : Nat) (as : List (Nat × Message)) (got : Reception Timeline) : Prop :=
  match got.arrival with
  | .message m => ∃ time rest, as = (time, m) :: rest ∧ now + got.wait = max now time ∧
      got.rest.Awaits (now + got.wait) rest
  | .nothing => (1 ≤ limit → 1 ≤ got.wait) ∧ (∀ x ∈ as.head?, now + got.wait ≤ x.1) ∧
      got.rest.Awaits (now + got.wait) as
  | .closed => as = []
  | .fault _ => False

/-- The answer of the pipe at `now`. -/
theorem pipe_cases (limit : Nat) :
    (∃ time m rest waiting, t.pipe.recv limit = ⟨0, .message m, { t.pipe with waiting }⟩ ∧
      as = (time, m) :: rest ∧ time ≤ now ∧
      Awaits { t with pipe := { t.pipe with waiting } } now rest) ∨
    (t.pipe.recv limit = ⟨limit, .nothing, t.pipe⟩ ∧ as = t.upcoming.arrivals) ∨
    (t.pipe.recv limit = ⟨0, .closed, t.pipe⟩ ∧ as = []) := by
  cases hw : t.pipe.waiting with
  | cons m waiting =>
    obtain ⟨time, rest, has, hle, hrest⟩ := h.of_waiting hw
    exact .inl ⟨time, m, rest, waiting, by rw [Pipe.recv, hw], has, hle, hrest⟩
  | nil =>
    have has := h.of_not_waiting hw
    by_cases hp : t.pipe.publishers = 0
    · exact .inr (.inr ⟨by simp [Pipe.recv, hw, hp], has.trans (h.publishers hp)⟩)
    · exact .inr (.inl ⟨by simp [Pipe.recv, hw, hp], has⟩)

theorem recv (limit : Nat) : Answers now limit as (t.recv now limit) := by
  have hnow := h.advance (Nat.le_refl now)
  have hlater := hnow.later (Nat.le_add_right now limit)
  rcases hnow.pipe_cases limit with
    ⟨time, m, rest, waiting, hrecv, has, hle, hrest⟩ | ⟨hrecv, has⟩ | ⟨hrecv, has⟩
  · simp only [Timeline.recv, hrecv]
    exact ⟨time, rest, has, (Nat.max_eq_left hle).symm, hrest⟩
  · cases hupcoming : (t.advance now).upcoming with
    | nil =>
      have hnil : as = [] := by rw [has, hupcoming]; rfl
      simp only [Timeline.recv, hrecv, hupcoming]
      exact ⟨id, by simp [hnil], hupcoming ▸ hlater⟩
    | cons item upcoming =>
      obtain ⟨due, happening⟩ := item
      have hlt : now < due := lt_of_upcoming_advance hupcoming
      have hnext : ∀ x ∈ as, due ≤ x.1 := by
        have horderly := hnow.orderly
        rw [hupcoming] at has horderly
        exact fun x hx => Script.le_of_mem_arrivals horderly (has ▸ hx)
      by_cases hdue : due < now + limit
      · obtain ⟨wait, rfl⟩ := Nat.exists_eq_add_of_le hlt.le
        have hpos : 1 ≤ wait := Nat.lt_add_right_iff_pos.1 hlt
        have hwait : now + wait - now = wait := Nat.add_sub_cancel_left _ _
        rcases (hnow.advance hlt.le).pipe_cases 0 with
          ⟨time, m, rest, waiting, hrecv', has', hle, hrest⟩ | ⟨hrecv', -⟩ | ⟨hrecv', has'⟩
        · simp only [Timeline.recv, hrecv, hupcoming, if_pos hdue, hrecv', hwait]
          have heq : now + wait = time := (hnext _ (has' ▸ List.mem_cons_self)).antisymm hle
          exact ⟨time, rest, has', by rw [heq, Nat.max_eq_right (heq ▸ hlt.le)], hrest⟩
        · simp only [Timeline.recv, hrecv, hupcoming, if_pos hdue, hrecv', hwait]
          exact ⟨fun _ => hpos, fun x hx => hnext x (List.mem_of_mem_head? hx),
            hnow.advance hlt.le⟩
        · simp only [Timeline.recv, hrecv, hupcoming, if_pos hdue, hrecv']
          exact has'
      · simp only [Timeline.recv, hrecv, hupcoming, if_neg hdue]
        refine ⟨id, fun x hx => ?_, hupcoming ▸ hlater⟩
        exact (Nat.le_of_not_lt hdue).trans (hnext x (List.mem_of_mem_head? hx))
  · simp only [Timeline.recv, hrecv]
    exact has

end Awaits

theorem awaits_ofScript {s : Script} (h : s.Pairwise fun a b => a.1 ≤ b.1) :
    (ofScript s).Awaits 0 s.published.arrivals :=
  ⟨rfl, Script.orderly_published h, (nomatch ·), [], rfl, by simp, rfl⟩

end Timeline

end Coordination
