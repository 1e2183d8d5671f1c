/-!
# Log lines

What the service reports about itself, most urgent levels first.
-/

namespace Coordination

inductive LogLevel where
  | error
  | warn
  | info
  | debug
  | trace
deriving DecidableEq, Repr

namespace LogLevel

/-- How much is let through when this is the last level that is. -/
def verbosity : LogLevel → Nat
  | error => 1
  | warn => 2
  | info => 3
  | debug => 4
  | trace => 5

def text : LogLevel → String
  | error => "ERROR"
  | warn => "WARN"
  | info => "INFO"
  | debug => "DEBUG"
  | trace => "TRACE"

end LogLevel

structure LogLine where
  level : LogLevel
  message : String
deriving DecidableEq, Repr

def LogLine.text (line : LogLine) : String := line.level.text ++ " " ++ line.message

/-- A line and the millisecond at which it was logged. -/
structure LogEntry where
  time : Nat
  line : LogLine
deriving DecidableEq, Repr

end Coordination
