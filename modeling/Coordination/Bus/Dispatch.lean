import Coordination.Bus.Counters
import Coordination.Bus.Registry
import Coordination.Text.Utf8

/-!
# Dispatch

One message is taken to its channel's handler. Whatever the handler does, dispatch has an
outcome: errors and crashes end here.
-/

namespace Coordination

/-- What dispatching one message does. -/
structure Dispatch (ω : Type) where
  outcome : Outcome
  world : ω
  duration : Nat := 0
  cancels : Bool := false
  log : List LogLine := []
  /-- The text that was handed to the handler, if one was invoked. -/
  invocation : Option String := none

/-- What is said of a payload that is no text. -/
def notTextMessage (fault : Text.Utf8Fault) : String := "payload is not UTF-8: " ++ fault.message

/-- Takes a message to its handler. The report of the outcome follows the handler's own lines. -/
def Registry.dispatch {ω : Type} (r : Registry ω) (m : Message) (world : ω) : Dispatch ω :=
  match r.handler? m.channel with
  | none => { outcome := ⟨m.channel, .unrouted⟩, world }
  | some h =>
    match Text.decodeUtf8 m.payload with
    | .error fault =>
      let outcome := ⟨m.channel, .failed h.name (.invalidPayload (notTextMessage fault))⟩
      { outcome, world, log := Outcome.log outcome }
    | .ok payload =>
      let reaction := h.handle payload world
      let outcome := ⟨m.channel, reaction.verdict.fate h.name⟩
      { outcome
        world := reaction.world
        duration := reaction.duration
        cancels := reaction.cancels
        log := reaction.log ++ Outcome.log outcome
        invocation := some payload }

@[simp] theorem Registry.channel_outcome_dispatch {ω : Type} (r : Registry ω) (m : Message)
    (world : ω) : (r.dispatch m world).outcome.channel = m.channel := by
  unfold dispatch
  split
  · rfl
  · split <;> rfl

/-- A bus with its counters. -/
structure Bus (ω : Type) where
  registry : Registry ω
  counters : Counters := {}

/-- Dispatches a message and counts it. -/
def Bus.dispatch {ω : Type} (bus : Bus ω) (m : Message) (world : ω) : Bus ω × Dispatch ω :=
  let d := bus.registry.dispatch m world
  ({ bus with counters := bus.counters.record d.outcome }, d)

end Coordination
