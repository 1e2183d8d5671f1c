import Coordination.Bus.Dispatch
import Coordination.Bus.Source
import Coordination.Text.Duration

/-!
# The dispatch loop

A run takes messages off a source and dispatches them one at a time, with a pause after every
turn. It ends when it is cancelled or when the source is closed. Cancellation is seen while
waiting for a message and during the pause, never inside an invocation; a wait that it cuts
short takes nothing from the source.

A run is a state, and `turn` takes it one turn further. A run that has ended stays as it is, so
more turns than are needed do no harm (`turns_of_ended`).
-/

namespace Coordination

/-- How long the loop waits. -/
structure Pace where
  /-- The longest wait for one message, in milliseconds. -/
  pollTimeout : Nat := 1000
  /-- The pause after each turn, in milliseconds. -/
  idleDelay : Nat := 10
deriving DecidableEq, Repr

inductive Ending where
  /-- The run was cancelled. -/
  | stopped
  | sourceClosed
deriving DecidableEq, Repr

/-- What the outside is told of a run that was not cancelled. -/
def sourceClosedMessage : String := "Message source closed"

/-- One dispatched message. -/
structure Delivery where
  /-- The millisecond at which the dispatch began. -/
  start : Nat
  message : Message
  outcome : Outcome
  duration : Nat
  invocation : Option String

structure Run (σ ω : Type) where
  now : Nat := 0
  source : σ
  world : ω
  counters : Counters := {}
  /-- Whether a handler has cancelled the run. -/
  cancelled : Bool := false
  deliveries : List Delivery := []
  log : List LogEntry := []
  /-- The counters after each change, with its time. -/
  readings : List (Nat × Counters) := []
  ending : Option Ending := none

namespace Run

variable {σ ω : Type}

def say (s : Run σ ω) (level : LogLevel) (message : String) : Run σ ω :=
  { s with log := s.log ++ [⟨s.now, ⟨level, message⟩⟩] }

/-- Makes the counters' present values a reading. -/
def read (s : Run σ ω) : Run σ ω := { s with readings := s.readings ++ [(s.now, s.counters)] }

/-- The state in which a run begins. -/
def start (r : Registry ω) (pace : Pace) (source : σ) (world : ω) (counters : Counters) :
    Run σ ω :=
  ({ source, world, counters, readings := [(0, counters)] } : Run σ ω).say .info
    s!"Event bus started: {r.size} channels, poll timeout {Text.duration pace.pollTimeout}"

/-- Whether the run is cancelled by the millisecond `time`, either by a handler or from
outside at `cancelAt`. -/
def isCancelledBy (s : Run σ ω) (cancelAt : Option Nat) (time : Nat) : Bool :=
  s.cancelled || cancelAt.any (· ≤ time)

/-- Ends the run as cancelled, at the later of the present and the cancellation. -/
def stop (s : Run σ ω) (cancelAt : Option Nat) : Run σ ω :=
  let now := if s.cancelled then s.now else max s.now (cancelAt.getD s.now)
  { s with now, ending := some .stopped }.say .info
    s!"Event bus stopped after {s.counters.received} messages ({s.counters.failures} failures)"

/-- Ends the run because the source is closed. -/
def close (s : Run σ ω) : Run σ ω :=
  { s with ending := some .sourceClosed }.say .warn
    "Event bus source closed, stopping dispatch loop"

/-- Dispatches a message. The outcome is counted and reported when the invocation ends. -/
def deliver (s : Run σ ω) (r : Registry ω) (m : Message) : Run σ ω :=
  let d := r.dispatch m s.world
  let now := s.now + d.duration
  ({ s with
    now
    world := d.world
    counters := s.counters.record d.outcome
    cancelled := s.cancelled || d.cancels
    deliveries := s.deliveries ++ [⟨s.now, m, d.outcome, d.duration, d.invocation⟩]
    log := s.log ++ d.log.map fun line => ⟨now, line⟩ } : Run σ ω).read

/-- Counts and reports an error of the transport. -/
def noteFault (s : Run σ ω) (text : String) : Run σ ω :=
  { s with counters := s.counters.recordTransportError }.read.say .warn
    s!"Event bus receive error: Redis error: {text}"

/-- Acts on what a wait ended with. -/
def accept (s : Run σ ω) (r : Registry ω) : Arrival → Run σ ω
  | .message m => s.deliver r m
  | .nothing => s
  | .fault text => s.noteFault text
  | .closed => s.close

/-- The pause at the end of a turn. -/
def pause (s : Run σ ω) (pace : Pace) (cancelAt : Option Nat) : Run σ ω :=
  if s.isCancelledBy cancelAt (s.now + pace.idleDelay) then s.stop cancelAt
  else { s with now := s.now + pace.idleDelay }

variable [Source σ]

/-- One turn: wait for a message, act on what arrives, pause. -/
def turn (r : Registry ω) (pace : Pace) (cancelAt : Option Nat) (s : Run σ ω) : Run σ ω :=
  if s.ending.isSome then s
  else if s.isCancelledBy cancelAt s.now then s.stop cancelAt
  else
    let got := Source.recv s.source s.now pace.pollTimeout
    if s.isCancelledBy cancelAt (s.now + got.wait) then s.stop cancelAt
    else
      let s := { s with now := s.now + got.wait, source := got.rest }.accept r got.arrival
      if s.ending.isSome then s else s.pause pace cancelAt

/-- At most `n` turns. -/
def turns (r : Registry ω) (pace : Pace) (cancelAt : Option Nat) : Nat → Run σ ω → Run σ ω
  | 0, s => s
  | n + 1, s => if s.ending.isSome then s else turns r pace cancelAt n (s.turn r pace cancelAt)

theorem turn_of_ended (r : Registry ω) (pace : Pace) (cancelAt : Option Nat) {s : Run σ ω}
    (h : s.ending.isSome) : s.turn r pace cancelAt = s := by
  simp [turn, h]

theorem turns_of_ended (r : Registry ω) (pace : Pace) (cancelAt : Option Nat) (n : Nat)
    {s : Run σ ω} (h : s.ending.isSome) : s.turns r pace cancelAt n = s := by
  cases n <;> simp [turns, h]

theorem turns_succ (r : Registry ω) (pace : Pace) (cancelAt : Option Nat) (n : Nat)
    (s : Run σ ω) :
    s.turns r pace cancelAt (n + 1) = (s.turn r pace cancelAt).turns r pace cancelAt n := by
  by_cases h : s.ending.isSome
  · rw [turns_of_ended _ _ _ _ h, turn_of_ended _ _ _ h, turns_of_ended _ _ _ _ h]
  · simp [turns, h]

end Run

end Coordination
