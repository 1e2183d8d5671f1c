/-!
# TOML values

What a configuration file says. Of floats and of dates and times only the presence is kept: no
setting is one. What is in an array or a table is kept with its place in the text, so that what
is wrong with it can be shown.
-/

namespace Coordination.Toml

/-- A place in a text, given by the number of characters from there to the end. -/
abbrev Place := Nat

inductive Value where
  | string (s : String)
  | integer (n : Int)
  | float
  | boolean (b : Bool)
  | datetime
  | array (elements : List (Place × Value))
  | table (entries : List (String × Place × Value))

/-- A part of a key, with its place. -/
structure KeyPart where
  name : String
  place : Place
deriving DecidableEq, Repr

/-- Takes something off the front of a text, or refuses the text. -/
abbrev Token (α : Type) := List Char → Option (α × List Char)

/-- Takes something off the front of a text, or gives the rest of the text from its first fault
on. -/
abbrev Reader (α : Type) := List Char → Except (List Char) (α × List Char)

/-- The deepest nesting of brackets, and the most parts of a dotted key, plus one. -/
def depthLimit : Nat := 80

/-! ## Characters -/

def isBlank (c : Char) : Bool := c == ' ' || c == '\t'

def skipBlank (cs : List Char) : List Char := cs.dropWhile isBlank

/-- A character beyond ASCII. -/
def isWide (c : Char) : Bool := 0x80 ≤ c.toNat

/-- What may stand in a comment. -/
def isCommentChar (c : Char) : Bool := c == '\t' || (0x20 ≤ c.toNat && c.toNat < 0x7F) || isWide c

/-- What stands for itself between double quotes. -/
def isBasicChar (c : Char) : Bool :=
  c == '\t' || (0x20 ≤ c.toNat && c.toNat < 0x7F && c != '"' && c != '\\') || isWide c

/-- What may stand between single quotes. -/
def isLiteralChar (c : Char) : Bool :=
  c == '\t' || (0x20 ≤ c.toNat && c.toNat < 0x7F && c != '\'') || isWide c

/-- What may stand in a key without quotes. -/
def isBareChar (c : Char) : Bool := c.isAlphanum || c == '_' || c == '-'

/-- Takes the end of a line: a line feed, with or without a carriage return before it. -/
def newline? : List Char → Option (List Char)
  | '\n' :: rest | '\r' :: '\n' :: rest => some rest
  | _ => none

/-- Passes over a comment, if there is one. -/
def skipComment : List Char → List Char
  | '#' :: rest => rest.dropWhile isCommentChar
  | cs => cs

/-- What may follow an expression on its line: blanks, a comment, and the line's end or the
text's. -/
def endOfLine (cs : List Char) : Except (List Char) (List Char) :=
  match skipComment (skipBlank cs) with
  | [] => .ok []
  | cs =>
    match newline? cs with
    | some rest => .ok rest
    | none => .error cs

end Coordination.Toml
