/-!
# Environment variables
-/

namespace Coordination

/-- The variables that are set. -/
structure Environment where
  /-- Names and values. -/
  bindings : List (String × String) := []

/-- The value of a variable, if it is set. It may be set to nothing. -/
def Environment.value? (env : Environment) (name : String) : Option String :=
  env.bindings.lookup name

end Coordination
