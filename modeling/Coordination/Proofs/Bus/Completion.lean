import Coordination.Bus.Basic
import Coordination.Proofs.Bus.Conservation
import Coordination.Proofs.Bus.Replay

/-!
# Runs over sources that close

A source that closes after finitely many answers is dispatched to its end: the run returns that
the source is closed, and its messages, its outcomes and its world are those of dispatching the
source's messages one after the other. Empty polls, errors of the transport and the bound on a
wait leave no trace in them (`completes_of_closing`).
-/

namespace Coordination

variable {σ ω : Type}

def Arrival.isFault : Arrival → Bool
  | .fault _ => true
  | .message _ | .nothing | .closed => false

/-! ## Sources that close -/

namespace Source

/-- What the source's answer leaves to be given: `P` is asked of the time and the source after
the answer, with the messages and the number of faults that are then still to come. -/
def Answers (P : Nat → σ → List Message → Nat → Prop) (time : Nat) (got : Reception σ)
    (ms : List Message) (faults : Nat) : Prop :=
  match got.arrival with
  | .message m => ∃ rest, ms = m :: rest ∧ P (time + got.wait) got.rest rest faults
  | .nothing => P (time + got.wait) got.rest ms faults
  | .fault _ => ∃ rest, faults = rest + 1 ∧ P (time + got.wait) got.rest ms rest
  | .closed => ms = [] ∧ faults = 0

/-- Asked at `now` or later, again and again and with the bound `limit`, the source is closed
within `n` answers. Before, it gives the messages `ms` in this order and `faults` faults, and
whatever else it answers is that the time is up. -/
def ClosesWithin [Source σ] (limit : Nat) : Nat → Nat → σ → List Message → Nat → Prop
  | 0, _, _, _, _ => False
  | n + 1, now, source, ms, faults =>
    ∀ time, now ≤ time →
      Answers (ClosesWithin limit n) time (Source.recv source time limit) ms faults

end Source

/-! ## Runs to the end -/

/-- No handler cancels while the messages are dispatched one after the other. -/
def Registry.Quiet (r : Registry ω) (w : ω) (ms : List Message) : Prop :=
  ∀ x ∈ r.dispatchAll w ms, x.cancels = false

namespace Registry.Quiet

variable {r : Registry ω} {w : ω} {ms ns : List Message}

theorem left (h : r.Quiet w (ms ++ ns)) : r.Quiet w ms :=
  fun x hx => h x (by rw [dispatchAll_append]; exact List.mem_append_left _ hx)

theorem right (h : r.Quiet w (ms ++ ns)) : r.Quiet (r.worldAfter w ms) ns :=
  fun x hx => h x (by rw [dispatchAll_append]; exact List.mem_append_right _ hx)

end Registry.Quiet

namespace Run

/-- The run has dispatched the messages `ms` in order, each once, has met `faults` faults and
has ended because its source is closed. -/
structure Completes (r : Registry ω) (w : ω) (c : Counters) (ms : List Message) (faults : Nat)
    (s : Run σ ω) : Prop where
  ending : s.ending = some .sourceClosed
  messages : s.messages = ms
  results : s.deliveries.map Delivery.result = (r.dispatchAll w ms).map Dispatch.result
  world : s.world = r.worldAfter w ms
  counters : s.counters = (c.recordAll s.outcomes).withErrors (c.transportErrors + faults)

/-- Each message has the outcome that it has when the messages are dispatched in order. -/
theorem Completes.outcomes {r : Registry ω} {w : ω} {c : Counters} {ms : List Message}
    {faults : Nat} {s : Run σ ω} (h : s.Completes r w c ms faults) :
    s.outcomes = (r.dispatchAll w ms).map Dispatch.outcome :=
  outcomes_of_results h.results

variable [Source σ] (r : Registry ω) (pace : Pace)

/-- From `s` to `t` the run has acted on what it received, and goes on. -/
structure GoesOn (s : Run σ ω) (got : Reception σ) (t : Run σ ω) : Prop where
  ending : t.ending = none
  cancelled : t.cancelled = false
  source : t.source = got.rest
  now : s.now + got.wait ≤ t.now
  world : t.world = r.worldAfter s.world got.arrival.messages
  messages : t.messages = s.messages ++ got.arrival.messages
  errors : t.counters.transportErrors =
    s.counters.transportErrors + if got.arrival.isFault then 1 else 0

/-- A turn that nothing cancels ends the run only if the source is closed. -/
theorem goesOn_turn {s : Run σ ω} (hs : s.ending = none) (hx : s.cancelled = false)
    (hquiet : r.Quiet s.world (s.reception pace).arrival.messages)
    (hopen : (s.reception pace).arrival ≠ .closed) :
    GoesOn r s (s.reception pace) (s.turn r pace none) := by
  have hnone : ¬ s.isCancelledBy none (s.now + (s.reception pace).wait) := by simp [hx]
  cases ha : (s.reception pace).arrival with
  | message m =>
    have hm : (r.dispatch m s.world).cancels = false := hquiet _ (by simp [ha, Arrival.messages])
    have hcan : ((s.waited pace).deliver r m).cancelled = false := by simp [hx, hm]
    rw [turn_of_message r pace none hs hnone ha, pause_none pace hcan]
    refine ⟨hs, hcan, rfl, ?_, by rw [ha]; rfl, ?_, by rw [ha]; simp [Arrival.isFault]⟩
    · exact (Nat.le_add_right _ _).trans (Nat.le_add_right _ _)
    · exact (messages_deliver _ r m).trans (by rw [ha]; rfl)
  | nothing =>
    have hcan : (s.waited pace).cancelled = false := hx
    rw [turn_of_nothing r pace none hs hnone ha, pause_none pace hcan]
    refine ⟨hs, hx, rfl, Nat.le_add_right _ _, by rw [ha]; rfl, ?_, by rw [ha]; rfl⟩
    rw [ha]
    exact (List.append_nil _).symm
  | fault text =>
    have hcan : ((s.waited pace).noteFault text).cancelled = false := hx
    rw [turn_of_fault r pace none hs hnone ha, pause_none pace hcan]
    refine ⟨hs, hx, rfl, Nat.le_add_right _ _, by rw [ha]; rfl, ?_, by rw [ha]; rfl⟩
    rw [ha]
    exact (List.append_nil _).symm
  | closed => exact absurd ha hopen

/-- Each answer of the source is one turn of the run. -/
theorem sourceClosed_of_closesWithin {n now : Nat} {s : Run σ ω} {ms : List Message}
    {faults : Nat} (h : Source.ClosesWithin pace.pollTimeout n now s.source ms faults)
    (hnow : now ≤ s.now) (hs : s.ending = none) (hx : s.cancelled = false)
    (hquiet : r.Quiet s.world ms) :
    let t := s.turns r pace none n
    t.ending = some .sourceClosed ∧ t.messages = s.messages ++ ms ∧
      t.counters.transportErrors = s.counters.transportErrors + faults := by
  induction n generalizing now s ms faults with
  | zero => exact h.elim
  | succ n ih =>
    have hgot : Source.Answers (Source.ClosesWithin pace.pollTimeout n) s.now (s.reception pace)
        ms faults := h s.now hnow
    have next : ∀ (rest : List Message) (f : Nat), (s.reception pace).arrival ≠ .closed →
        ms = (s.reception pace).arrival.messages ++ rest →
        faults = f + (if (s.reception pace).arrival.isFault then 1 else 0) →
        Source.ClosesWithin pace.pollTimeout n (s.now + (s.reception pace).wait)
          (s.reception pace).rest rest f →
        let t := (s.turn r pace none).turns r pace none n
        t.ending = some .sourceClosed ∧ t.messages = s.messages ++ ms ∧
          t.counters.transportErrors = s.counters.transportErrors + faults := by
      intro rest f hopen hms hf hrest
      subst hms hf
      have hstep := goesOn_turn r pace hs hx hquiet.left hopen
      have hq : r.Quiet (s.turn r pace none).world rest := by
        rw [hstep.world]
        exact hquiet.right
      obtain ⟨hend, hms, herr⟩ := ih (hstep.source ▸ hrest) hstep.now hstep.ending
        hstep.cancelled hq
      refine ⟨hend, ?_, ?_⟩
      · rw [hms, hstep.messages, List.append_assoc]
      · rw [herr, hstep.errors, Nat.add_assoc, Nat.add_comm f]
    rw [turns_succ]
    unfold Source.Answers at hgot
    cases ha : (s.reception pace).arrival with
    | message m =>
      simp only [ha] at hgot
      obtain ⟨rest, hms, hrest⟩ := hgot
      exact next rest faults (by simp [ha]) (by rw [ha]; exact hms) (by rw [ha]; rfl) hrest
    | nothing =>
      simp only [ha] at hgot
      exact next ms faults (by simp [ha]) (by rw [ha]; rfl) (by rw [ha]; rfl) hgot
    | fault text =>
      simp only [ha] at hgot
      obtain ⟨rest, hf, hrest⟩ := hgot
      exact next ms rest (by simp [ha]) (by rw [ha]; rfl) (by rw [ha]; exact hf) hrest
    | closed =>
      simp only [ha] at hgot
      obtain ⟨rfl, rfl⟩ := hgot
      rw [turn_of_closed r pace none hs (by simp [hx]) ha,
        turns_of_ended r pace none n (by simp)]
      exact ⟨rfl, (List.append_nil _).symm, rfl⟩

/-- A run over a source that closes completes with the messages of the source. -/
theorem completes_of_closing {n : Nat} {source : σ} {w : ω} {c : Counters} {ms : List Message}
    {faults : Nat} (h : Source.ClosesWithin pace.pollTimeout n 0 source ms faults)
    (hquiet : r.Quiet w ms) :
    ((Run.start r pace source w c).turns r pace none n).Completes r w c ms faults := by
  obtain ⟨hend, hms, herr⟩ := sourceClosed_of_closesWithin r pace
    (s := Run.start r pace source w c) h (Nat.zero_le _) rfl rfl hquiet
  have hms : ((Run.start r pace source w c).turns r pace none n).messages = ms := hms
  have hreplay := replays_turns r pace none source w c n
  refine ⟨hend, hms, ?_, ?_, ?_⟩
  · rw [hreplay.results, hms]
  · rw [hreplay.world, hms]
  · refine hreplay.counters.trans ?_
    rw [herr]
    rfl

end Run

end Coordination
