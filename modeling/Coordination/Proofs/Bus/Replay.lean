import Coordination.Proofs.Bus.Turn

/-!
# Runs as replays

Whatever the source did and however long the waits were, a run has done to the world what
dispatching its messages one after the other does, and its counters have counted the outcomes
(`replays_turns`).
-/

namespace Coordination

variable {σ ω : Type}

/-! ## Dispatching in order -/

namespace Registry

/-- The world after the messages were dispatched one after the other. -/
def worldAfter (r : Registry ω) (w : ω) (ms : List Message) : ω :=
  ms.foldl (fun w m => (r.dispatch m w).world) w

/-- The dispatches of the messages, each in the world that the ones before it left. -/
def dispatchAll (r : Registry ω) (w : ω) : List Message → List (Dispatch ω)
  | [] => []
  | m :: ms => r.dispatch m w :: dispatchAll r (r.dispatch m w).world ms

variable (r : Registry ω) (w : ω) (ms : List Message)

@[simp] theorem worldAfter_nil : r.worldAfter w [] = w := rfl

@[simp] theorem worldAfter_cons (m : Message) :
    r.worldAfter w (m :: ms) = r.worldAfter (r.dispatch m w).world ms := rfl

theorem worldAfter_append (ns : List Message) :
    r.worldAfter w (ms ++ ns) = r.worldAfter (r.worldAfter w ms) ns :=
  List.foldl_append

@[simp] theorem dispatchAll_nil : r.dispatchAll w [] = [] := rfl

@[simp] theorem dispatchAll_cons (m : Message) :
    r.dispatchAll w (m :: ms) = r.dispatch m w :: r.dispatchAll (r.dispatch m w).world ms := rfl

theorem dispatchAll_append (ns : List Message) :
    r.dispatchAll w (ms ++ ns) = r.dispatchAll w ms ++ r.dispatchAll (r.worldAfter w ms) ns := by
  induction ms generalizing w with
  | nil => rfl
  | cons m ms ih => simp [ih]

@[simp] theorem length_dispatchAll : (r.dispatchAll w ms).length = ms.length := by
  induction ms generalizing w with
  | nil => rfl
  | cons m ms ih => simp [ih]

end Registry

/-! ## Counting outcomes -/

namespace Outcome

def isUnrouted (o : Outcome) : Bool := o.fate matches .unrouted
def isDelivered (o : Outcome) : Bool := o.fate matches .delivered _
def isFailed (o : Outcome) : Bool := o.fate matches .failed _ _
def isPanicked (o : Outcome) : Bool := o.fate matches .panicked _ _

end Outcome

namespace Counters

/-- Counts dispatched messages one after the other. -/
def recordAll (c : Counters) (os : List Outcome) : Counters := os.foldl record c

/-- Every outcome is counted as received and under its kind. -/
theorem recordAll_eq (c : Counters) (os : List Outcome) :
    c.recordAll os = {
      received := c.received + os.length
      delivered := c.delivered + os.countP Outcome.isDelivered
      unrouted := c.unrouted + os.countP Outcome.isUnrouted
      failed := c.failed + os.countP Outcome.isFailed
      panicked := c.panicked + os.countP Outcome.isPanicked
      transportErrors := c.transportErrors } := by
  induction os generalizing c with
  | nil => rfl
  | cons o os ih =>
    obtain ⟨channel, fate⟩ := o
    rw [recordAll, List.foldl_cons, ← recordAll, ih]
    cases fate <;>
      simp [record, List.countP_cons, Outcome.isDelivered, Outcome.isUnrouted, Outcome.isFailed,
        Outcome.isPanicked] <;> omega

theorem recordAll_append (c : Counters) (os ps : List Outcome) :
    c.recordAll (os ++ ps) = (c.recordAll os).recordAll ps :=
  List.foldl_append

/-- The counters with another number of transport errors. -/
def withErrors (c : Counters) (n : Nat) : Counters := { c with transportErrors := n }

@[simp] theorem withErrors_withErrors (c : Counters) (n k : Nat) :
    (c.withErrors n).withErrors k = c.withErrors k := rfl

/-- An error of the transport is counted apart from the outcomes. -/
theorem record_withErrors (c : Counters) (n : Nat) (o : Outcome) :
    (c.withErrors n).record o = (c.record o).withErrors n := by
  obtain ⟨channel, fate⟩ := o
  cases fate <;> rfl

theorem recordAll_withErrors (c : Counters) (n : Nat) (os : List Outcome) :
    (c.withErrors n).recordAll os = (c.recordAll os).withErrors n := by
  induction os generalizing c with
  | nil => rfl
  | cons o os ih =>
    rw [recordAll, List.foldl_cons, record_withErrors]
    exact ih (c.record o)

@[simp] theorem transportErrors_record (c : Counters) (o : Outcome) :
    (c.record o).transportErrors = c.transportErrors := by
  obtain ⟨channel, fate⟩ := o
  cases fate <;> rfl

end Counters

/-! ## What a run has done -/

/-- What became of a delivery: the outcome, how long it took and what its handler was given. -/
def Delivery.result (d : Delivery) : Outcome × Nat × Option String :=
  (d.outcome, d.duration, d.invocation)

/-- What becomes of a dispatched message. -/
def Dispatch.result (d : Dispatch ω) : Outcome × Nat × Option String :=
  (d.outcome, d.duration, d.invocation)

namespace Run

/-- The outcomes of the dispatched messages, oldest first. -/
def outcomes (s : Run σ ω) : List Outcome := s.deliveries.map Delivery.outcome

@[simp] theorem outcomes_deliver (s : Run σ ω) (r : Registry ω) (m : Message) :
    (s.deliver r m).outcomes = s.outcomes ++ [(r.dispatch m s.world).outcome] := by
  simp [outcomes, delivery]

theorem outcomes_of_results {s : Run σ ω} {ds : List (Dispatch ω)}
    (h : s.deliveries.map Delivery.result = ds.map Dispatch.result) :
    s.outcomes = ds.map Dispatch.outcome := by
  have := congrArg (List.map Prod.fst) h
  simpa [outcomes, List.map_map, Function.comp_def, Delivery.result, Dispatch.result] using this

/-- The run has dispatched its messages one after the other, beginning in the world `w` with
the counters `c`. -/
structure Replays (r : Registry ω) (w : ω) (c : Counters) (s : Run σ ω) : Prop where
  world : s.world = r.worldAfter w s.messages
  results : s.deliveries.map Delivery.result = (r.dispatchAll w s.messages).map Dispatch.result
  cancelled : s.cancelled = (r.dispatchAll w s.messages).any Dispatch.cancels
  counters : s.counters = (c.recordAll s.outcomes).withErrors s.counters.transportErrors

namespace Replays

variable {r : Registry ω} {w : ω} {c : Counters} {s t : Run σ ω}

/-- Only the world, the counters, the deliveries and the handlers' cancellation matter. -/
theorem congr (h : s.Replays r w c) (hw : t.world = s.world)
    (hd : t.deliveries = s.deliveries) (hx : t.cancelled = s.cancelled)
    (hc : t.counters = s.counters.withErrors t.counters.transportErrors) :
    t.Replays r w c := by
  have hm : t.messages = s.messages := congrArg (List.map Delivery.message) hd
  have ho : t.outcomes = s.outcomes := congrArg (List.map Delivery.outcome) hd
  refine ⟨?_, ?_, ?_, ?_⟩
  · rw [hw, hm, h.world]
  · rw [hd, hm, h.results]
  · rw [hx, hm, h.cancelled]
  · rw [ho]
    refine hc.trans ?_
    rw [h.counters, Counters.withErrors_withErrors]

theorem deliver (h : s.Replays r w c) (m : Message) : (s.deliver r m).Replays r w c := by
  refine ⟨?_, ?_, ?_, ?_⟩
  · rw [messages_deliver, Registry.worldAfter_append, ← h.world]
    rfl
  · rw [messages_deliver, Registry.dispatchAll_append, ← h.world, deliveries_deliver,
      List.map_append, List.map_append, h.results]
    rfl
  · rw [messages_deliver, Registry.dispatchAll_append, ← h.world, cancelled_deliver,
      List.any_append, h.cancelled]
    simp
  · rw [counters_deliver, outcomes_deliver, Counters.recordAll_append,
      Counters.transportErrors_record]
    exact (congrArg (Counters.record · _) h.counters).trans (Counters.record_withErrors _ _ _)

theorem pause (h : s.Replays r w c) (pace : Pace) (cancelAt : Option Nat) :
    (s.pause pace cancelAt).Replays r w c :=
  h.congr (by simp) (by simp) (by simp) (by simp; rfl)

theorem start (r : Registry ω) (pace : Pace) (source : σ) (w : ω) (c : Counters) :
    (Run.start r pace source w c).Replays r w c :=
  ⟨rfl, rfl, rfl, rfl⟩

end Replays

variable [Source σ] (r : Registry ω) (pace : Pace) (cancelAt : Option Nat)

theorem Replays.turn {w : ω} {c : Counters} {s : Run σ ω} (h : s.Replays r w c)
    (hs : s.ending = none) : (s.turn r pace cancelAt).Replays r w c := by
  have hwait : (s.waited pace).Replays r w c := h.congr rfl rfl rfl rfl
  refine turn_cases (P := Replays r w c) r pace cancelAt hs ?_ ?_ ?_ ?_ ?_
  · exact fun _ => h.congr rfl rfl rfl rfl
  · exact fun m _ _ => (hwait.deliver m).pause pace cancelAt
  · exact fun _ _ => hwait.pause pace cancelAt
  · intro text _ _
    have : ((s.waited pace).noteFault text).Replays r w c := hwait.congr rfl rfl rfl rfl
    exact this.pause pace cancelAt
  · exact fun _ _ => h.congr rfl rfl rfl rfl

/-- At all times a run is a replay of the messages that it has dispatched. -/
theorem replays_turns (source : σ) (w : ω) (c : Counters) (n : Nat) :
    ((Run.start r pace source w c).turns r pace cancelAt n).Replays r w c :=
  turns_induction r pace cancelAt (.start r pace source w c)
    (fun _ h hs => h.turn r pace cancelAt hs) n

end Run

end Coordination
