import Coordination.Log.Basic

/-!
# Handlers

A handler reacts to the payload of one channel. What it does to the world, how it ends, how
long it takes and whether it asks for the run to stop are one value, its reaction; a handler is
a function from payload and world to that value.
-/

namespace Coordination

/-- Why a handler refused a payload or failed on it. -/
inductive HandlerError where
  /-- The payload is not of the form that the handler expects. -/
  | invalidPayload (text : String)
  /-- The payload was understood, but could not be acted on. -/
  | execution (text : String)
deriving DecidableEq, Repr

def HandlerError.message : HandlerError → String
  | .invalidPayload text => "Invalid payload: " ++ text
  | .execution text => "Handler execution error: " ++ text

/-- How an invocation ends. -/
inductive Verdict where
  | ok
  | error (e : HandlerError)
  /-- The handler crashed, with a text if its crash carries one. -/
  | crash (text : Option String)
deriving DecidableEq, Repr

/-- Everything that one invocation does. -/
structure Reaction (ω : Type) where
  world : ω
  verdict : Verdict := .ok
  /-- How long the invocation takes, in milliseconds. -/
  duration : Nat := 0
  /-- Whether the invocation cancels the run that it is part of. -/
  cancels : Bool := false
  log : List LogLine := []

structure Handler (ω : Type) where
  name : String
  handle : String → ω → Reaction ω

end Coordination
