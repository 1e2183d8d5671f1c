import Coordination.Decimal.Layout
import Coordination.Text.Quoted

/-!
# What can be wrong with a JSON text

A text can end too early, break the grammar, or be a value that does not fit what is asked of
it. A reader takes a value off the front of a text; the first fault from the left is the one
that is reported.
-/

namespace Coordination.Json

/-- A value as far as a message needs it. Arrays and objects are not looked into. -/
inductive Found where
  | null
  | boolean (b : Bool)
  | integer (n : Int)
  | float (x : Float)
  | string (s : String)
  | array
  | object

def Found.describe : Found → String
  | null => "null"
  | boolean b => if b then "boolean `true`" else "boolean `false`"
  | integer n => "integer `" ++ toString n ++ "`"
  | float x => "floating point `" ++ Decimal.Layout.json.write x ++ "`"
  | string s => "string " ++ Text.quoted s
  | array => "sequence"
  | object => "map"

/-- How a value fails to fit. -/
inductive Mismatch where
  | missingField (name : String)
  | duplicateField (name : String)
  | invalidType (found : Found) (expected : String)
  | invalidValue (found : Found) (expected : String)
  | invalidLength (length : Nat) (expected : String)
  /-- A number of the right type that names nothing. -/
  | unknown (message : String)

def Mismatch.message : Mismatch → String
  | missingField name => "missing field `" ++ name ++ "`"
  | duplicateField name => "duplicate field `" ++ name ++ "`"
  | invalidType found expected => "invalid type: " ++ found.describe ++ ", expected " ++ expected
  | invalidValue found expected => "invalid value: " ++ found.describe ++ ", expected " ++ expected
  | invalidLength length expected => s!"invalid length {length}, expected {expected}"
  | unknown message => message

inductive Fault where
  /-- The text ends inside a value. -/
  | truncated
  /-- The text is not JSON. -/
  | malformed
  /-- The value is not the one that is asked for. -/
  | unfit (m : Mismatch)

/-- Takes a value off the front of a text. -/
abbrev Reader (α : Type) := List Char → Except Fault (α × List Char)

/-- The blanks between tokens. -/
def isBlank (c : Char) : Bool := c == ' ' || c == '\n' || c == '\t' || c == '\r'

def skipBlank (cs : List Char) : List Char := cs.dropWhile isBlank

/-- Takes a known word off the front of a text. -/
def readWord : List Char → List Char → Except Fault (List Char)
  | [], cs => .ok cs
  | _ :: _, [] => .error .truncated
  | w :: word, c :: cs => if w = c then readWord word cs else .error .malformed

end Coordination.Json
