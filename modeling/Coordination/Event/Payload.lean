import Coordination.Identity
import Coordination.Text.Blank
import Coordination.Text.Numeral
import Coordination.Text.Quoted

/-!
# Payloads

A payload is an id, or an id and a text with a bar between them. Blanks around the id are
passed over; the text is everything after the first bar and may hold further bars.
-/

namespace Coordination

/-- Why a payload cannot be read. It carries the text that was refused. -/
inductive PayloadError where
  | invalidId (text : String)
  | missingSeparator (text : String)
deriving DecidableEq, Repr

def PayloadError.message : PayloadError → String
  | .invalidId text => "expected a numeric id, got " ++ Text.quoted text
  | .missingSeparator text => "expected \"<id>|<text>\", got " ++ Text.quoted text

namespace Payload

def parseId (payload : String) : Except PayloadError Int64 :=
  match Text.readInt64? (Text.trim payload.toList) with
  | some id => .ok id
  | none => .error (.invalidId payload)

/-- The text before the first bar and the text after it. -/
def splitBar? (payload : String) : Option (String × String) :=
  match payload.toList.span (· ≠ '|') with
  | (_, []) => none
  | (before, _ :: after) => some (String.ofList before, String.ofList after)

def parsePair (payload : String) : Except PayloadError (Int64 × String) :=
  match splitBar? payload with
  | none => .error (.missingSeparator payload)
  | some (before, after) => (parseId before).map (·, after)

def encodeId (id : Int64) : String := toString id

def encodePair (id : Int64) (text : String) : String := toString id ++ "|" ++ text

end Payload

end Coordination
