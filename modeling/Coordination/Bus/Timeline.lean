import Coordination.Bus.Pipe

/-!
# Timelines

The in-process transport together with what its publisher is going to do and when. A message
that is published during a wait ends the wait.
-/

namespace Coordination

/-- What can happen beside the loop. -/
inductive Happening where
  | publish (m : Message)
  /-- The last publisher goes away. -/
  | close
  /-- The run is cancelled from outside. -/
  | cancel
deriving DecidableEq

/-- What happens, in ascending order of the milliseconds. -/
abbrev Script := List (Nat × Happening)

namespace Script

/-- What happens up to the publisher's end. Nothing happens after it. -/
def untilClose : Script → Script
  | [] => []
  | (time, .close) :: _ => [(time, .close)]
  | item :: rest => item :: untilClose rest

/-- When the run is cancelled. -/
def cancelTime? (s : Script) : Option Nat :=
  s.untilClose.findSome? fun (time, h) => if h = .cancel then some time else none

/-- What the publisher does. -/
def published (s : Script) : Script := s.untilClose.filter fun (_, h) => h ≠ .cancel

/-- No later time is mentioned. -/
def horizon (s : Script) : Nat := s.foldl (fun t (time, _) => max t time) 0

end Script

structure Timeline where
  pipe : Pipe := {}
  /-- What the publisher is still going to do. -/
  upcoming : Script := []

namespace Timeline

def ofScript (s : Script) : Timeline := ⟨{}, s.published⟩

/-- What a happening does to the pipe. -/
def apply (p : Pipe) : Happening → Pipe
  | .publish m => (p.publish m).getD p
  | .close => p.dropPublisher
  | .cancel => p

/-- Lets everything happen that is due by `now`. -/
def advance (t : Timeline) (now : Nat) : Timeline where
  pipe := (t.upcoming.takeWhile (·.1 ≤ now)).foldl (fun p (_, h) => apply p h) t.pipe
  upcoming := t.upcoming.dropWhile (·.1 ≤ now)

/-- Receives what is there, or else waits for what comes first: the publisher's next step, or
the end of the wait. -/
def recv (t : Timeline) (now limit : Nat) : Reception Timeline :=
  let t := t.advance now
  let r := t.pipe.recv limit
  match r.arrival, t.upcoming with
  | .nothing, (time, _) :: _ =>
    if time < now + limit then
      let t := t.advance time
      let r := t.pipe.recv 0
      ⟨time - now, r.arrival, { t with pipe := r.rest }⟩
    else ⟨r.wait, .nothing, { t with pipe := r.rest }⟩
  | arrival, _ => ⟨r.wait, arrival, { t with pipe := r.rest }⟩

instance : Source Timeline := ⟨recv⟩

end Timeline

end Coordination
