import Coordination.Bus.Handler
import Coordination.Message

/-!
# Outcomes

What became of one message, and the line that reports it.
-/

namespace Coordination

/-- What became of a message, with the name of the handler that was responsible. -/
inductive Fate where
  /-- No handler is registered for the channel. -/
  | unrouted
  | delivered (handler : String)
  | failed (handler : String) (e : HandlerError)
  /-- The handler crashed. -/
  | panicked (handler message : String)
deriving DecidableEq, Repr

structure Outcome where
  channel : String
  fate : Fate
deriving DecidableEq, Repr

namespace Outcome

def isFailure (o : Outcome) : Bool :=
  match o.fate with
  | .failed _ _ | .panicked _ _ => true
  | .unrouted | .delivered _ => false

/-- The handler that was responsible. -/
def handler? (o : Outcome) : Option String :=
  match o.fate with
  | .unrouted => none
  | .delivered handler | .failed handler _ | .panicked handler _ => some handler

/-- Only failures are reported. -/
def log (o : Outcome) : List LogLine :=
  match o.fate with
  | .unrouted | .delivered _ => []
  | .failed handler e => [⟨.warn, s!"Handler {handler} failed on {o.channel}: {e.message}"⟩]
  | .panicked handler message => [⟨.error, s!"Handler {handler} panicked on {o.channel}: {message}"⟩]

end Outcome

/-- What a crash is reported as. -/
def crashMessage (text : Option String) : String := text.getD "non-string panic payload"

/-- The fate of a message whose handler ended so. -/
def Verdict.fate (handler : String) : Verdict → Fate
  | .ok => .delivered handler
  | .error e => .failed handler e
  | .crash text => .panicked handler (crashMessage text)

end Coordination
