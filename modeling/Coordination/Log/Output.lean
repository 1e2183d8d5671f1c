import Coordination.Json.Record
import Coordination.Log.Filter
import Coordination.Text.ControlSequence

/-!
# Log output

The records that a filter lets through are shown one to a line, as text or as JSON objects. Each
names the thread that it comes from. Text may be read on a terminal, so its controls are disarmed.
-/

namespace Coordination

/-- Something that is logged by a part of the program. -/
structure LogRecord where
  /-- The part of the program. -/
  target : String
  line : LogLine
  /-- What was counted. -/
  fields : List (String × Int) := []

namespace LogRecord

/-- The names of the record's fields. The message is one of them. -/
def fieldNames (r : LogRecord) : List String := "message" :: r.fields.map (·.1)

/-- The record as text, with its fields after the message. -/
def text (r : LogRecord) (thread : String) : String :=
  " ".intercalate (r.line.level.text :: thread :: Text.disarmed r.line.message ::
    r.fields.map fun (name, value) => name ++ "=" ++ toString value)

/-- The record as a JSON object, with its message among the fields. -/
def json (r : LogRecord) (thread : String) : String :=
  Json.writeObject [
    ("level", Json.writeString r.line.level.text),
    ("fields", Json.writeObject (("message", Json.writeString r.line.message) ::
      r.fields.map fun (name, value) => (name, toString value))),
    ("threadName", Json.writeString thread)]

end LogRecord

/-- Where records go: through a filter to lines of one form. -/
structure LogOutput where
  filter : LogFilter
  jsonFormat : Bool := false

namespace LogOutput

/-- Whether a record is let through. -/
def admits (o : LogOutput) (r : LogRecord) : Bool :=
  o.filter.admits r.target r.fieldNames r.line.level

/-- The line of a record that is let through. -/
def line? (o : LogOutput) (thread : String) (r : LogRecord) : Option String :=
  if o.admits r then some (if o.jsonFormat then r.json thread else r.text thread) else none

/-- A message as it can be read off the output. -/
def shown (o : LogOutput) (message : String) : String :=
  if o.jsonFormat then message else Text.disarmed message

end LogOutput

/-- The logging of a process. Records go nowhere until it is set up. -/
structure Logging where
  output : Option LogOutput := none

namespace Logging

/-- Sets the output, which can be done only once. -/
def setUp (l : Logging) (output : LogOutput) : Option Logging :=
  match l.output with
  | none => some ⟨some output⟩
  | some _ => none

/-- The lines of records that are logged. -/
def lines (l : Logging) (thread : String) (records : List LogRecord) : List String :=
  match l.output with
  | none => []
  | some o => records.filterMap (o.line? thread)

end Logging

end Coordination
