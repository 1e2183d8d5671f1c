import Coordination.Bus.Source

/-!
# The in-process transport

A first-in-first-out pipe with any number of publishers and one source. It is closed for the
source once it is empty and without publishers, and closed for publishers once its source is
gone.
-/

namespace Coordination

/-- What either side is told of a pipe that is closed for it. -/
def transportClosedMessage : String := "Transport closed"

structure Pipe where
  /-- What was published and not received, oldest first. -/
  waiting : List Message := []
  publishers : Nat := 1
  hasSource : Bool := true

namespace Pipe

/-- Queues a message at the end, or refuses it because nobody will receive it. -/
def publish (p : Pipe) (m : Message) : Option Pipe :=
  if p.hasSource then some { p with waiting := p.waiting ++ [m] } else none

/-- One more publisher beside an existing one. -/
def clonePublisher (p : Pipe) : Pipe :=
  if p.publishers = 0 then p else { p with publishers := p.publishers + 1 }

def dropPublisher (p : Pipe) : Pipe := { p with publishers := p.publishers - 1 }

/-- Drops the source, and with it what it has not received. -/
def dropSource (p : Pipe) : Pipe := { p with waiting := [], hasSource := false }

/-- Receives while nothing is published: the oldest message at once if there is one, the end at
once if no publisher is left, and otherwise nothing after the whole wait. -/
def recv (p : Pipe) (limit : Nat) : Reception Pipe :=
  match p.waiting with
  | m :: waiting => ⟨0, .message m, { p with waiting }⟩
  | [] => if p.publishers = 0 then ⟨0, .closed, p⟩ else ⟨limit, .nothing, p⟩

end Pipe

end Coordination
