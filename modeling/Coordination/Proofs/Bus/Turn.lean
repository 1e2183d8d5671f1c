import Coordination.Bus.Loop
import Mathlib.Data.List.Infix

/-!
# The turns of a run

A run that has not ended takes one of five turns (`turn_cases`): it stops because it was
cancelled by the end of its wait, or it acts on what arrived and, unless the source is closed,
pauses. What holds at the start and is kept by every such turn holds at all times
(`turns_induction`).
-/

namespace Coordination

/-- The millisecond at which the invocation ended. -/
def Delivery.finish (d : Delivery) : Nat := d.start + d.duration

namespace Run

variable {σ ω : Type}

/-- The dispatched messages, oldest first. -/
def messages (s : Run σ ω) : List Message := s.deliveries.map Delivery.message

/-! ## What the parts of a turn leave alone -/

section Parts

variable (s : Run σ ω) (r : Registry ω) (pace : Pace) (cancelAt : Option Nat)

@[simp] theorem source_stop : (s.stop cancelAt).source = s.source := rfl
@[simp] theorem world_stop : (s.stop cancelAt).world = s.world := rfl
@[simp] theorem counters_stop : (s.stop cancelAt).counters = s.counters := rfl
@[simp] theorem cancelled_stop : (s.stop cancelAt).cancelled = s.cancelled := rfl
@[simp] theorem deliveries_stop : (s.stop cancelAt).deliveries = s.deliveries := rfl
@[simp] theorem readings_stop : (s.stop cancelAt).readings = s.readings := rfl
@[simp] theorem ending_stop : (s.stop cancelAt).ending = some .stopped := rfl

theorem now_stop : (s.stop cancelAt).now =
    if s.cancelled then s.now else max s.now (cancelAt.getD s.now) := rfl

theorem le_now_stop : s.now ≤ (s.stop cancelAt).now := by
  rw [now_stop]
  split <;> omega

@[simp] theorem now_close : s.close.now = s.now := rfl
@[simp] theorem source_close : s.close.source = s.source := rfl
@[simp] theorem world_close : s.close.world = s.world := rfl
@[simp] theorem counters_close : s.close.counters = s.counters := rfl
@[simp] theorem cancelled_close : s.close.cancelled = s.cancelled := rfl
@[simp] theorem deliveries_close : s.close.deliveries = s.deliveries := rfl
@[simp] theorem readings_close : s.close.readings = s.readings := rfl
@[simp] theorem ending_close : s.close.ending = some .sourceClosed := rfl

@[simp] theorem now_noteFault (text : String) : (s.noteFault text).now = s.now := rfl
@[simp] theorem source_noteFault (text : String) : (s.noteFault text).source = s.source := rfl
@[simp] theorem world_noteFault (text : String) : (s.noteFault text).world = s.world := rfl
@[simp] theorem cancelled_noteFault (text : String) :
    (s.noteFault text).cancelled = s.cancelled := rfl
@[simp] theorem deliveries_noteFault (text : String) :
    (s.noteFault text).deliveries = s.deliveries := rfl
@[simp] theorem ending_noteFault (text : String) : (s.noteFault text).ending = s.ending := rfl
@[simp] theorem counters_noteFault (text : String) :
    (s.noteFault text).counters = s.counters.recordTransportError := rfl
@[simp] theorem readings_noteFault (text : String) : (s.noteFault text).readings =
    s.readings ++ [(s.now, s.counters.recordTransportError)] := rfl

/-- The record of a message that is dispatched now. -/
def delivery (m : Message) : Delivery :=
  let d := r.dispatch m s.world
  ⟨s.now, m, d.outcome, d.duration, d.invocation⟩

@[simp] theorem source_deliver (m : Message) : (s.deliver r m).source = s.source := rfl
@[simp] theorem ending_deliver (m : Message) : (s.deliver r m).ending = s.ending := rfl
@[simp] theorem now_deliver (m : Message) :
    (s.deliver r m).now = (s.delivery r m).finish := rfl
@[simp] theorem world_deliver (m : Message) :
    (s.deliver r m).world = (r.dispatch m s.world).world := rfl
@[simp] theorem counters_deliver (m : Message) :
    (s.deliver r m).counters = s.counters.record (r.dispatch m s.world).outcome := rfl
@[simp] theorem cancelled_deliver (m : Message) :
    (s.deliver r m).cancelled = (s.cancelled || (r.dispatch m s.world).cancels) := rfl
@[simp] theorem deliveries_deliver (m : Message) :
    (s.deliver r m).deliveries = s.deliveries ++ [s.delivery r m] := rfl
@[simp] theorem readings_deliver (m : Message) : (s.deliver r m).readings =
    s.readings ++ [((s.delivery r m).finish,
      s.counters.record (r.dispatch m s.world).outcome)] := rfl

@[simp] theorem messages_deliver (m : Message) :
    (s.deliver r m).messages = s.messages ++ [m] := by
  simp [messages, delivery]

/-- A pause that a cancellation cuts short is the run's end. -/
theorem pause_of_cancelled (h : s.isCancelledBy cancelAt (s.now + pace.idleDelay)) :
    s.pause pace cancelAt = s.stop cancelAt := by
  rw [pause, if_pos h]

theorem pause_of_not_cancelled (h : ¬ s.isCancelledBy cancelAt (s.now + pace.idleDelay)) :
    s.pause pace cancelAt = { s with now := s.now + pace.idleDelay } := by
  rw [pause, if_neg h]

@[simp] theorem source_pause : (s.pause pace cancelAt).source = s.source := by
  unfold pause; split <;> rfl
@[simp] theorem world_pause : (s.pause pace cancelAt).world = s.world := by
  unfold pause; split <;> rfl
@[simp] theorem counters_pause : (s.pause pace cancelAt).counters = s.counters := by
  unfold pause; split <;> rfl
@[simp] theorem cancelled_pause : (s.pause pace cancelAt).cancelled = s.cancelled := by
  unfold pause; split <;> rfl
@[simp] theorem deliveries_pause : (s.pause pace cancelAt).deliveries = s.deliveries := by
  unfold pause; split <;> rfl
@[simp] theorem messages_pause : (s.pause pace cancelAt).messages = s.messages := by
  unfold pause; split <;> rfl
@[simp] theorem readings_pause : (s.pause pace cancelAt).readings = s.readings := by
  unfold pause; split <;> rfl

theorem le_now_pause : s.now ≤ (s.pause pace cancelAt).now := by
  by_cases h : s.isCancelledBy cancelAt (s.now + pace.idleDelay)
  · rw [pause_of_cancelled _ _ _ h]
    exact le_now_stop s cancelAt
  · rw [pause_of_not_cancelled _ _ _ h]
    exact Nat.le_add_right _ _

@[simp] theorem isCancelledBy_none (time : Nat) : s.isCancelledBy none time = s.cancelled := by
  simp [isCancelledBy]

@[simp] theorem isCancelledBy_some (c time : Nat) :
    s.isCancelledBy (some c) time = (s.cancelled || decide (c ≤ time)) := by
  simp [isCancelledBy]

/-- A pause lasts its time if nothing cancels the run. -/
theorem pause_none {s : Run σ ω} (hx : s.cancelled = false) :
    s.pause pace none = { s with now := s.now + pace.idleDelay } :=
  pause_of_not_cancelled s pace none (by simp [hx])

/-- A token stays cancelled. -/
theorem isCancelledBy_mono {t u : Nat} (h : s.isCancelledBy cancelAt t) (htu : t ≤ u) :
    s.isCancelledBy cancelAt u := by
  cases cancelAt with
  | none => simpa using h
  | some c =>
    simp only [isCancelledBy_some, Bool.or_eq_true, decide_eq_true_eq] at h ⊢
    exact h.imp_right fun hc => Nat.le_trans hc htu

end Parts

/-! ## One turn -/

variable [Source σ]

/-- What the run's next wait ends with, if nothing cuts it short. -/
def reception (s : Run σ ω) (pace : Pace) : Reception σ :=
  Source.recv s.source s.now pace.pollTimeout

/-- The run at the end of its next wait. -/
def waited (s : Run σ ω) (pace : Pace) : Run σ ω :=
  { s with now := s.now + (s.reception pace).wait, source := (s.reception pace).rest }

section Fields

variable (s : Run σ ω) (pace : Pace)

@[simp] theorem now_waited : (s.waited pace).now = s.now + (s.reception pace).wait := rfl
@[simp] theorem source_waited : (s.waited pace).source = (s.reception pace).rest := rfl
@[simp] theorem world_waited : (s.waited pace).world = s.world := rfl
@[simp] theorem counters_waited : (s.waited pace).counters = s.counters := rfl
@[simp] theorem cancelled_waited : (s.waited pace).cancelled = s.cancelled := rfl
@[simp] theorem deliveries_waited : (s.waited pace).deliveries = s.deliveries := rfl
@[simp] theorem messages_waited : (s.waited pace).messages = s.messages := rfl
@[simp] theorem readings_waited : (s.waited pace).readings = s.readings := rfl
@[simp] theorem ending_waited : (s.waited pace).ending = s.ending := rfl

end Fields

section Turn

variable (r : Registry ω) (pace : Pace) (cancelAt : Option Nat) {s : Run σ ω}

/-- The cancellation is seen before the wait begins or during it. -/
theorem turn_of_cancelled (hs : s.ending = none)
    (h : s.isCancelledBy cancelAt (s.now + (s.reception pace).wait)) :
    s.turn r pace cancelAt = s.stop cancelAt := by
  unfold reception at h
  by_cases hnow : s.isCancelledBy cancelAt s.now
  · simp [turn, hs, hnow]
  · simp [turn, hs, hnow, h]

/-- What arrives before the cancellation is acted on. -/
theorem turn_of_not_cancelled (hs : s.ending = none)
    (h : ¬ s.isCancelledBy cancelAt (s.now + (s.reception pace).wait)) :
    s.turn r pace cancelAt =
      let s' := (s.waited pace).accept r (s.reception pace).arrival
      if s'.ending.isSome then s' else s'.pause pace cancelAt := by
  have hnow : ¬ s.isCancelledBy cancelAt s.now := fun hc =>
    h (isCancelledBy_mono s cancelAt hc (Nat.le_add_right _ _))
  rw [turn, if_neg (by simp [hs]), if_neg hnow]
  exact if_neg h

theorem turn_of_message (hs : s.ending = none)
    (h : ¬ s.isCancelledBy cancelAt (s.now + (s.reception pace).wait)) {m : Message}
    (hm : (s.reception pace).arrival = .message m) :
    s.turn r pace cancelAt = ((s.waited pace).deliver r m).pause pace cancelAt := by
  rw [turn_of_not_cancelled r pace cancelAt hs h, hm]
  simp [accept, hs]

theorem turn_of_nothing (hs : s.ending = none)
    (h : ¬ s.isCancelledBy cancelAt (s.now + (s.reception pace).wait))
    (hn : (s.reception pace).arrival = .nothing) :
    s.turn r pace cancelAt = (s.waited pace).pause pace cancelAt := by
  rw [turn_of_not_cancelled r pace cancelAt hs h, hn]
  simp [accept, hs]

theorem turn_of_fault (hs : s.ending = none)
    (h : ¬ s.isCancelledBy cancelAt (s.now + (s.reception pace).wait)) {text : String}
    (hf : (s.reception pace).arrival = .fault text) :
    s.turn r pace cancelAt = ((s.waited pace).noteFault text).pause pace cancelAt := by
  rw [turn_of_not_cancelled r pace cancelAt hs h, hf]
  simp [accept, hs]

theorem turn_of_closed (hs : s.ending = none)
    (h : ¬ s.isCancelledBy cancelAt (s.now + (s.reception pace).wait))
    (hc : (s.reception pace).arrival = .closed) :
    s.turn r pace cancelAt = (s.waited pace).close := by
  rw [turn_of_not_cancelled r pace cancelAt hs h, hc]
  simp [accept]

/-- The five turns of a run that has not ended. -/
theorem turn_cases {P : Run σ ω → Prop} (hs : s.ending = none)
    (stopped : s.isCancelledBy cancelAt (s.now + (s.reception pace).wait) → P (s.stop cancelAt))
    (message : ∀ m, ¬ s.isCancelledBy cancelAt (s.now + (s.reception pace).wait) →
      (s.reception pace).arrival = .message m →
      P (((s.waited pace).deliver r m).pause pace cancelAt))
    (nothing : ¬ s.isCancelledBy cancelAt (s.now + (s.reception pace).wait) →
      (s.reception pace).arrival = .nothing → P ((s.waited pace).pause pace cancelAt))
    (fault : ∀ text, ¬ s.isCancelledBy cancelAt (s.now + (s.reception pace).wait) →
      (s.reception pace).arrival = .fault text →
      P (((s.waited pace).noteFault text).pause pace cancelAt))
    (closed : ¬ s.isCancelledBy cancelAt (s.now + (s.reception pace).wait) →
      (s.reception pace).arrival = .closed → P (s.waited pace).close) :
    P (s.turn r pace cancelAt) := by
  by_cases h : s.isCancelledBy cancelAt (s.now + (s.reception pace).wait)
  · rw [turn_of_cancelled r pace cancelAt hs h]
    exact stopped h
  · cases ha : (s.reception pace).arrival with
    | message m =>
      rw [turn_of_message r pace cancelAt hs h ha]
      exact message m h ha
    | nothing =>
      rw [turn_of_nothing r pace cancelAt hs h ha]
      exact nothing h ha
    | fault text =>
      rw [turn_of_fault r pace cancelAt hs h ha]
      exact fault text h ha
    | closed =>
      rw [turn_of_closed r pace cancelAt hs h ha]
      exact closed h ha

/-- Time does not run backwards. -/
theorem le_now_turn : s.now ≤ (s.turn r pace cancelAt).now := by
  cases hs : s.ending with
  | some e =>
    rw [turn_of_ended r pace cancelAt (by simp [hs])]
  | none =>
    refine turn_cases (P := fun t => s.now ≤ t.now) r pace cancelAt hs ?_ ?_ ?_ ?_ ?_
    · exact fun _ => le_now_stop s cancelAt
    · intro m _ _
      refine Nat.le_trans ?_ (le_now_pause _ _ _)
      simp [delivery, Delivery.finish, Nat.add_assoc]
    · intro _ _
      exact Nat.le_trans (Nat.le_add_right _ _) (le_now_pause (s.waited pace) _ _)
    · intro text _ _
      exact Nat.le_trans (Nat.le_add_right _ _)
        (le_now_pause ((s.waited pace).noteFault text) _ _)
    · exact fun _ _ => Nat.le_add_right _ _

/-- A turn dispatches at most one message, when its wait is over. -/
theorem deliveries_turn (hs : s.ending = none) :
    (s.turn r pace cancelAt).deliveries = s.deliveries ∨
      ∃ m, (s.turn r pace cancelAt).deliveries =
        s.deliveries ++ [(s.waited pace).delivery r m] := by
  refine turn_cases (P := fun t => t.deliveries = s.deliveries ∨
    ∃ m, t.deliveries = s.deliveries ++ [(s.waited pace).delivery r m])
    r pace cancelAt hs ?_ ?_ ?_ ?_ ?_
  · exact fun _ => Or.inl rfl
  · exact fun m _ _ => Or.inr ⟨m, by simp⟩
  · exact fun _ _ => Or.inl (by simp)
  · exact fun text _ _ => Or.inl (by simp)
  · exact fun _ _ => Or.inl rfl

theorem messages_turn (hs : s.ending = none) :
    (s.turn r pace cancelAt).messages = s.messages ∨
      ∃ m, (s.turn r pace cancelAt).messages = s.messages ++ [m] := by
  rcases deliveries_turn r pace cancelAt hs with h | ⟨m, h⟩
  · exact Or.inl (congrArg (List.map Delivery.message) h)
  · refine Or.inr ⟨m, (congrArg (List.map Delivery.message) h).trans ?_⟩
    rw [List.map_append]
    rfl

/-- Deliveries are never taken back. -/
theorem deliveries_prefix_turn : s.deliveries <+: (s.turn r pace cancelAt).deliveries := by
  cases hs : s.ending with
  | some e =>
    rw [turn_of_ended r pace cancelAt (by simp [hs])]
  | none =>
    rcases deliveries_turn r pace cancelAt hs with h | ⟨m, h⟩
    · rw [h]
    · rw [h]
      exact List.prefix_append _ _

theorem messages_prefix_turn : s.messages <+: (s.turn r pace cancelAt).messages :=
  (deliveries_prefix_turn r pace cancelAt).map _

end Turn

/-! ## Many turns -/

section Turns

variable (r : Registry ω) (pace : Pace) (cancelAt : Option Nat)

@[simp] theorem turns_zero (s : Run σ ω) : s.turns r pace cancelAt 0 = s := rfl

/-- The last turn of `n + 1` is one turn of what `n` turns lead to. -/
theorem turns_succ_eq_turn (n : Nat) (s : Run σ ω) :
    s.turns r pace cancelAt (n + 1) = (s.turns r pace cancelAt n).turn r pace cancelAt := by
  induction n generalizing s with
  | zero => rw [turns_succ, turns_zero, turns_zero]
  | succ n ih => rw [turns_succ, ih, ← turns_succ]

theorem turns_add (n k : Nat) (s : Run σ ω) :
    s.turns r pace cancelAt (n + k) =
      (s.turns r pace cancelAt n).turns r pace cancelAt k := by
  induction n generalizing s with
  | zero => rw [Nat.zero_add, turns_zero]
  | succ n ih => rw [Nat.add_right_comm, turns_succ, ih, turns_succ]

/-- A run that has ended within `n` turns stays as it is. -/
theorem turns_eq_of_le {n k : Nat} (hnk : n ≤ k) {s : Run σ ω}
    (h : (s.turns r pace cancelAt n).ending.isSome) :
    s.turns r pace cancelAt k = s.turns r pace cancelAt n := by
  obtain ⟨j, rfl⟩ := Nat.exists_eq_add_of_le hnk
  rw [turns_add, turns_of_ended r pace cancelAt j h]

/-- What holds at the start and is kept by each turn of a run that has not ended holds at all
times. -/
theorem turns_induction {P : Run σ ω → Prop} {s : Run σ ω} (start : P s)
    (turn : ∀ t, P t → t.ending = none → P (t.turn r pace cancelAt)) (n : Nat) :
    P (s.turns r pace cancelAt n) := by
  induction n with
  | zero => exact start
  | succ n ih =>
    rw [turns_succ_eq_turn]
    cases h : (s.turns r pace cancelAt n).ending with
    | none => exact turn _ ih h
    | some e => rwa [turn_of_ended r pace cancelAt (by simp [h])]

end Turns

end Run

end Coordination
