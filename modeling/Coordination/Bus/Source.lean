import Coordination.Message

/-!
# Message sources

A source is asked for the next message with a bound on the wait. Its answer says how long it
took, what arrived and what the source is afterwards; a wait that is abandoned before its end
takes nothing from the source.
-/

namespace Coordination

/-- What a wait ends with. -/
inductive Arrival where
  | message (m : Message)
  /-- The time is up. This is no error. -/
  | nothing
  /-- Receiving went wrong; the source may still produce messages. -/
  | fault (text : String)
  /-- No message will come any more. -/
  | closed
deriving DecidableEq

structure Reception (σ : Type) where
  wait : Nat
  arrival : Arrival
  rest : σ

/-- What can be asked for messages. `recv source now limit` waits from the millisecond `now` for
at most `limit` milliseconds. -/
class Source (σ : Type) where
  recv : σ → Nat → Nat → Reception σ

end Coordination
