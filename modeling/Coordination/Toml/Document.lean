import Coordination.Toml.Number
import Coordination.Toml.Table
import Coordination.Toml.Text

/-!
# TOML documents

A document is a sequence of lines: headers that open a table, and keys with values that go into
the table opened last.
-/

namespace Coordination.Toml

/-- What was found, or else the rest of the text from a fault on. -/
def orFault {α : Type} (rest : List Char) : Option α → Except (List Char) α
  | some a => .ok a
  | none => .error rest

/-! ## Keys -/

/-- One part of a key: bare, or a string on one line. -/
def readSimpleKey : Reader String
  | '"' :: rest => (readBasic (rest.length + 1) rest).map fun (s, rest) => (String.ofList s, rest)
  | '\'' :: rest => (readLiteral rest).map fun (s, rest) => (String.ofList s, rest)
  | cs =>
    let name := cs.takeWhile isBareChar
    if name.isEmpty then .error cs else .ok (String.ofList name, cs.dropWhile isBareChar)

/-- Whether a part of a key begins here. -/
def startsKey : List Char → Bool
  | c :: _ => c == '"' || c == '\'' || isBareChar c
  | [] => false

/-- The parts of a key, with blanks around each. A dot without a part after it is no part of
the key. -/
def readKeyParts : Nat → Reader (List KeyPart)
  | 0, cs => .error cs
  | fuel + 1, cs => do
    let (name, rest) ← readSimpleKey (skipBlank cs)
    let part : KeyPart := ⟨name, (skipBlank cs).length⟩
    match skipBlank rest with
    | '.' :: rest =>
      if startsKey (skipBlank rest) then
        let (parts, rest) ← readKeyParts fuel rest
        return (part :: parts, rest)
      else return ([part], '.' :: rest)
    | rest => return ([part], rest)

/-- A key: the path to a table, and the last part. -/
def readKey (cs : List Char) : Except (List Char) ((List KeyPart × String) × List Char) := do
  let (parts, rest) ← readKeyParts (cs.length + 1) cs
  if depthLimit ≤ parts.length then .error cs
  else return ((parts.dropLast, (parts.getLast?.map KeyPart.name).getD ""), rest)

/-! ## Values -/

/-- Passes over blanks, comments and line ends inside an array. A comment must have a line
end. -/
def skipLoose : Nat → List Char → Except (List Char) (List Char)
  | 0, cs => .ok cs
  | fuel + 1, cs =>
    match skipBlank cs with
    | '#' :: rest =>
      match newline? (skipComment ('#' :: rest)) with
      | some rest => skipLoose fuel rest
      | none => .error ('#' :: rest)
    | cs =>
      match newline? cs with
      | some rest => skipLoose fuel rest
      | none => .ok cs

def skipSpace (cs : List Char) : Except (List Char) (List Char) := skipLoose (cs.length + 1) cs

def readKeyword (word : List Char) (v : Value) (cs : List Char) :
    Except (List Char) (Value × List Char) :=
  if word.isPrefixOf cs then .ok (v, cs.drop word.length) else .error cs

mutual

/-- A value inside `depth` brackets. No two calls in a row leave the text as it is. -/
def readValue : Nat → Nat → Reader Value
  | 0, _, cs => .error cs
  | fuel + 1, depth, cs =>
    match cs with
    | [] => .error []
    | '"' :: _ | '\'' :: _ => (readText cs).map fun (s, rest) => (.string s, rest)
    | '[' :: rest =>
      if depthLimit ≤ depth + 1 then .error cs
      else do
        let (elements, rest) ← readElements fuel (depth + 1) rest
        return (.array elements, rest)
    | '\x7b' :: rest =>
      if depthLimit ≤ depth + 1 then .error cs
      else
        match skipBlank rest with
        | '\x7d' :: rest => .ok (.table [], rest)
        | rest => do
          let (t, rest) ← readMembers fuel (depth + 1) {} rest
          return (t.toValue, rest)
    | 't' :: _ => readKeyword "true".toList (.boolean true) cs
    | 'f' :: _ => readKeyword "false".toList (.boolean false) cs
    | c :: _ =>
      if c.isDigit || c == '+' || c == '-' || c == 'i' || c == 'n' then
        orFault cs (readNumeric cs)
      else .error cs

/-- The rest of an array. A comma may follow the last element. -/
def readElements : Nat → Nat → Reader (List (Place × Value))
  | 0, _, cs => .error cs
  | fuel + 1, depth, cs => do
    match ← skipSpace cs with
    | ']' :: rest => return ([], rest)
    | cs =>
      let (v, rest) ← readValue fuel depth cs
      match ← skipSpace rest with
      | ',' :: rest =>
        let (vs, rest) ← readElements fuel depth rest
        return ((cs.length, v) :: vs, rest)
      | ']' :: rest => return ([(cs.length, v)], rest)
      | rest => .error rest

/-- The members of an inline table, and its end. A comma without a member after it is out of
place. -/
def readMembers : Nat → Nat → Table → Reader Table
  | 0, _, _, cs => .error cs
  | fuel + 1, depth, t, cs => do
    let ((path, key), rest) ← readKey cs
    match rest with
    | '=' :: rest =>
      let place := (skipBlank rest).length
      let (v, rest) ← readValue fuel depth (skipBlank rest)
      let t ← orFault cs (t.addValue path key place v)
      match skipBlank rest with
      | ',' :: rest =>
        if startsKey (skipBlank rest) then readMembers fuel depth t rest
        else .error (',' :: rest)
      | '\x7d' :: rest => return (t, rest)
      | rest => .error rest
    | rest => .error rest

end

/-! ## Lines -/

/-- A document as far as it has been read. -/
structure Draft where
  root : Table := {}
  /-- The table opened last: the path to it, with its own key at the end. -/
  current : List KeyPart := []

namespace Draft

/-- Adds a value to the table opened last. -/
def add (d : Draft) (path : List KeyPart) (key : String) (place : Place) (v : Value) :
    Option Draft :=
  (d.root.changeAt false (Table.addValue path key place v) d.current).map fun root =>
    { d with root }

/-- Reads a header and the rest of its line. -/
def readHeader (d : Draft) (cs : List Char) : Except (List Char) (Draft × List Char) :=
  match cs with
  | '[' :: '[' :: inner => do
    let ((path, key), rest) ← readKey inner
    match rest with
    | ']' :: ']' :: rest =>
      let rest ← endOfLine rest
      let root ← orFault cs (d.root.openElement path key cs.length)
      return ({ root, current := path ++ [⟨key, cs.length⟩] }, rest)
    | rest => .error rest
  | '[' :: c :: inner => do
    let ((path, key), rest) ← readKey (c :: inner)
    match rest with
    | ']' :: rest =>
      let rest ← endOfLine rest
      let root ← orFault cs (d.root.openTable path key cs.length)
      return ({ root, current := path ++ [⟨key, cs.length⟩] }, rest)
    | rest => .error rest
  | cs => .error cs

/-- Reads a key, its value and the rest of the line. -/
def readEntry (d : Draft) (cs : List Char) : Except (List Char) (Draft × List Char) := do
  let ((path, key), rest) ← readKey cs
  match rest with
  | '=' :: rest =>
    let rest := skipBlank rest
    let place := rest.length
    let (v, rest) ← readValue (2 * rest.length + 2) 0 rest
    let rest ← endOfLine rest
    let d ← orFault cs (d.add path key place v)
    return (d, rest)
  | rest => .error rest

/-- Reads the lines of a document. Each takes at least one character. -/
def readLines : Nat → Draft → List Char → Except (List Char) Draft
  | 0, _, cs => .error cs
  | fuel + 1, d, cs =>
    match skipBlank cs with
    | [] => .ok d
    | '#' :: rest => do
      let rest ← endOfLine ('#' :: rest)
      readLines fuel d rest
    | '[' :: rest => do
      let (d, rest) ← d.readHeader ('[' :: rest)
      readLines fuel d rest
    | cs =>
      match newline? cs with
      | some rest => readLines fuel d rest
      | none => do
        let (d, rest) ← d.readEntry cs
        readLines fuel d rest

end Draft

/-- The table that a document describes, or the place of its first fault. A byte order mark at
its start is passed over. -/
def parse (text : String) : Except Place Table :=
  let cs := match text.toList with
    | '\uFEFF' :: rest => rest
    | cs => cs
  match Draft.readLines (cs.length + 1) {} cs with
  | .ok d => .ok d.root
  | .error rest => .error rest.length

end Coordination.Toml
