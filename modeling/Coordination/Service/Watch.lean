import Coordination.Service.Monitor

/-!
# The monitor beside the bus

While the bus counts, the monitor looks on, and neither waits for the other. A message is counted
as received before it is counted under its kind, and a snapshot loads one counter after the other,
so that any moves of the bus may come between two loads. The clock goes on only when nothing is
left to do in its millisecond: what the monitor is woken for it does at once, but an invocation may
keep the bus busy for any time. The monitor is woken by a tick or by the cancellation of the
service's token; if it finds both, either may be followed.
-/

namespace Coordination

/-- What the monitor is doing. -/
inductive Monitor.Phase where
  /-- It takes a snapshot, of which it has `got` some counters and has still to load the ones in
  `left`. The snapshot before is `last`, if there is one. -/
  | loading (last : Option Counters) (got : Counters) (left : List Counter)
  /-- It waits for the next tick or for the cancellation. -/
  | waiting (last : Counters)
  | stopped
deriving DecidableEq, Repr

structure Watch where
  /-- The time in milliseconds. -/
  now : Nat := 0
  counters : Counters
  /-- The message that is counted as received and not yet under its kind. -/
  pending : Option Outcome := none
  /-- When and how the bus ended. -/
  ended : Option (Nat × Ending) := none
  /-- When the token was cancelled. -/
  cancelled : Option Nat := none
  phase : Monitor.Phase := .loading none {} Counter.all
  /-- When the next tick is due. -/
  due : Nat := Monitor.interval
  reports : List (Nat × Monitor.Health) := []
deriving DecidableEq, Repr

namespace Watch

/-- One step of the bus, of the monitor, of whoever cancels the token, or of the clock. -/
inductive Move where
  /-- The bus counts a message as received. -/
  | receive (o : Outcome)
  /-- The bus counts the received message under its kind. -/
  | settle (o : Outcome)
  /-- The bus counts an error of the transport. -/
  | fault
  | endBus (e : Ending)
  /-- The token is cancelled from outside, by a handler, or because the bus has ended. -/
  | cancel
  | load
  | report
  | tick
  | leave
  /-- A millisecond passes. -/
  | pass
deriving DecidableEq, Repr

/-- Whether the monitor and the service have nothing to do in this millisecond. -/
def isIdle (w : Watch) : Bool :=
  w.pending.isNone && (w.ended.isNone || w.cancelled.isSome) &&
    match w.phase with
    | .loading _ _ _ => false
    | .waiting _ => w.now < w.due && w.cancelled.isNone
    | .stopped => true

/-- The watch after a move that can be made. -/
def perform (w : Watch) : Move → Option Watch
  | .receive o =>
    if w.ended.isNone && w.pending.isNone then
      some { w with counters := w.counters.bump .received, pending := some o }
    else none
  | .settle o =>
    if w.pending = some o then
      some { w with counters := w.counters.bump o.counter, pending := none }
    else none
  | .fault =>
    if w.ended.isNone && w.pending.isNone then
      some { w with counters := w.counters.bump .transportErrors }
    else none
  | .endBus e =>
    if w.ended.isNone && w.pending.isNone && (e = .sourceClosed || w.cancelled.isSome) then
      some { w with ended := some (w.now, e) }
    else none
  | .cancel => if w.cancelled.isNone then some { w with cancelled := some w.now } else none
  | .load =>
    match w.phase with
    | .loading last got (k :: left) =>
      some { w with phase := .loading last (got.set (w.counters.get k) k) left }
    | _ => none
  | .report =>
    match w.phase with
    | .loading none got [] => some { w with phase := .waiting got }
    | .loading (some last) got [] =>
      some { w with phase := .waiting got, reports := w.reports ++ [(w.now, .between last got)] }
    | _ => none
  | .tick =>
    match w.phase with
    | .waiting last =>
      if w.due ≤ w.now then
        some { w with phase := .loading (some last) {} Counter.all, due := w.due + Monitor.interval }
      else none
    | _ => none
  | .leave =>
    match w.phase with
    | .waiting _ => if w.cancelled.isSome then some { w with phase := .stopped } else none
    | _ => none
  | .pass => if w.isIdle then some { w with now := w.now + 1 } else none

/-- The watch after moves that follow one another. -/
def run (w : Watch) (ms : List Move) : Option Watch := ms.foldlM perform w

/-- The watch at the start of a run, with the counters as they are then. -/
def start (counters : Counters) : Watch := { counters }

end Watch

end Coordination
