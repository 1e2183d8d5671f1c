import Coordination.Bus.Basic
import Coordination.Service.Handlers
import Coordination.Service.Monitor

/-!
# A run of the service

The service wires the handlers of its deployment to a bus and runs the bus beside the health
monitor. When the bus stops, the monitor stops with it and the final counts are reported.
-/

namespace Coordination

/-- A service that has been wired up. -/
structure Service where
  deployment : Deployment := {}
  /-- The chat room that announcements go to. -/
  announceRoom : String := "#announce"
  pace : Pace := {}

/-- Log entries of two origins in the order of their times. At equal times the first origin's
come first. -/
def mergeLogs : List LogEntry → List LogEntry → List LogEntry
  | [], ys => ys
  | xs, [] => xs
  | x :: xs, y :: ys =>
    if x.time ≤ y.time then x :: mergeLogs xs (y :: ys) else y :: mergeLogs (x :: xs) ys
termination_by xs ys => xs.length + ys.length

theorem mergeLogs_nil (xs : List LogEntry) : mergeLogs xs [] = xs := by
  cases xs <;> simp [mergeLogs]

/-- When the monitor is told to stop. A cancellation from outside at `cancelAt` reaches it even
while an invocation keeps the bus from ending. -/
def Run.watchedUntil {σ ω : Type} (s : Run σ ω) (cancelAt : Option Nat) : Nat :=
  min s.now (cancelAt.getD s.now)

/-- What a run of the service leaves behind. -/
structure ServiceReport where
  ending : Option Ending
  elapsed : Nat
  world : World
  counters : Counters
  log : List LogLine

namespace Service

def bus (s : Service) : Bus World := { registry := s.deployment.registry s.announceRoom }

def startLine (r : Registry World) : LogLine :=
  ⟨.info, s!"refx coordination service running with {r.size} channels: {Text.quotedList r.channels}"⟩

def finalLine (c : Counters) : LogLine :=
  ⟨.info, s!"Final statistics: {c.received} received, {c.delivered} delivered, {c.unrouted} unrouted, {c.failed} failed, {c.panicked} panicked"⟩

/-- The last line. -/
def endingLine : Ending → LogLine
  | .stopped => ⟨.info, "refx coordination service shutdown complete"⟩
  | .sourceClosed => ⟨.error, "Message source closed unexpectedly"⟩

/-- Everything that is reported of a run, from the first line to the last. -/
def log {σ : Type} (bus : Bus World) (cancelAt : Option Nat) (run : Run σ World) :
    List LogLine :=
  let monitor := Monitor.log run.readings bus.counters (run.watchedUntil cancelAt)
  startLine bus.registry :: (mergeLogs run.log monitor).map LogEntry.line ++
    finalLine run.counters :: run.ending.toList.map endingLine

/-- Runs the service's bus over the in-process transport while the script is acted out. -/
def runScript (s : Service) (bus : Bus World) (script : Script) (world : World) :
    ServiceReport :=
  let run := bus.runScript s.pace script world
  { ending := run.ending, elapsed := run.now, world := run.world, counters := run.counters
    log := log bus script.cancelTime? run }

end Service

end Coordination
