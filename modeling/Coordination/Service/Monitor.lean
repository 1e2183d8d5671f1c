import Coordination.Bus.Loop

/-!
# The health monitor

While the service runs, the monitor reports at fixed intervals what was counted since its last
report.
-/

namespace Coordination

/-- The counters as they stood at a time. -/
def readingAt (readings : List (Nat × Counters)) (time : Nat) : Counters :=
  (((readings.takeWhile (·.1 ≤ time)).getLast?).map (·.2)).getD {}

namespace Monitor

/-- Milliseconds between two reports. -/
def interval : Nat := 60000

/-- The times of the reports: the whole intervals that elapse before the end. -/
def ticks (elapsed : Nat) : List Nat :=
  (List.range ((elapsed - 1) / interval)).map fun k => (k + 1) * interval

/-- What was counted between two readings. -/
structure Health where
  received : Nat
  failures : Nat
  /-- All transport errors so far. -/
  transportErrors : Nat
deriving DecidableEq, Repr

def Health.between (last now : Counters) : Health where
  received := now.received - last.received
  failures := now.failures - last.failures
  transportErrors := now.transportErrors

/-- The report. Failures are pointed out once more. -/
def Health.log (h : Health) : List LogLine :=
  let seconds := interval / 1000
  let line : LogLine := ⟨.info, s!"Bus health - {h.received} messages/{seconds}s | {h.failures} failures | {h.transportErrors} transport errors total"⟩
  if h.failures > 0 then
    [line, ⟨.warn, s!"{h.failures} handler failures in the last {seconds}s"⟩]
  else [line]

/-- One report per time, each on what was counted since the one before. -/
def reports (readings : List (Nat × Counters)) (last : Counters) : List Nat → List (Nat × Health)
  | [] => []
  | time :: rest =>
    let now := readingAt readings time
    (time, .between last now) :: reports readings now rest

/-- What the monitor logs during a run that began with the counters `first`. -/
def log (readings : List (Nat × Counters)) (first : Counters) (elapsed : Nat) : List LogEntry :=
  (reports readings first (ticks elapsed)).flatMap fun (time, health) =>
    health.log.map fun line => ⟨time, line⟩

end Monitor

end Coordination
