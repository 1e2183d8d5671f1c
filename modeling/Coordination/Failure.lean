/-!
# Failures

What fails has an error for its caller, or it crashes. A crash is not for the caller: it ends
everything up to the invocation that it is part of.
-/

namespace Coordination

/-- How something fails. -/
inductive Failure (ε : Type) where
  | error (e : ε)
  | crash (text : String)
deriving DecidableEq, Repr

namespace Failure

/-- The failure for a caller who has errors of his own. A crash stays a crash. -/
def map {ε δ : Type} (f : ε → δ) : Failure ε → Failure δ
  | error e => error (f e)
  | crash text => crash text

/-- The crash of an addition whose sum does not fit. -/
def overflow {ε : Type} : Failure ε := crash "attempt to add with overflow"

end Failure

end Coordination
