import Coordination.Json.Value

/-!
# Records in JSON

A record is read from an object, whose members may come in any order and among unknown ones, or
from an array of the values in the record's order. It is collected in a draft, a value in which
every field may still be missing.
-/

namespace Coordination.Json

/-- A field of records whose drafts are of type `ρ`. -/
structure Field (ρ : Type) where
  name : String
  /-- Reads the value and puts it into a draft. -/
  read : Reader (ρ → ρ)
  /-- Whether a draft has the field. -/
  isSet : ρ → Bool
  /-- Whether an object may leave the field out. -/
  optional : Bool := false

/-- A field that is read by `read` and stored by `set`. -/
def Field.of {ρ α : Type} (name : String) (read : Reader α) (get : ρ → Option α)
    (set : α → ρ → ρ) (optional : Bool := false) : Field ρ where
  name
  read cs := (read cs).map fun (a, rest) => (set a, rest)
  isSet d := (get d).isSome
  optional

/-- How records of type `α` are read. -/
structure Schema (ρ α : Type) where
  name : String
  fields : List (Field ρ)
  empty : ρ
  /-- The record, once no field is missing. -/
  build : ρ → Option α

namespace Schema

variable {ρ α : Type}

/-- What an array of the wrong length is told. -/
def arrayText (s : Schema ρ α) : String :=
  let n := s.fields.length
  s!"struct {s.name} with {n} element" ++ if n = 1 then "" else "s"

/-- The record of a draft, or the first field that is missing. -/
def finish (s : Schema ρ α) (d : ρ) : Except Fault α :=
  match s.fields.find? fun f => !f.optional && !f.isSet d with
  | some f => .error (.unfit (.missingField f.name))
  | none =>
    match s.build d with
    | some a => .ok a
    | none => .error .malformed

/-- The value of a member whose key has been read. -/
def readMember (s : Schema ρ α) (key : String) (d : ρ) (cs : List Char) :
    Except Fault (ρ × List Char) :=
  let afterColon : Except Fault (List Char) := match skipBlank cs with
    | [] => .error .truncated
    | ':' :: rest => .ok rest
    | _ => .error .malformed
  match s.fields.find? (·.name == key) with
  | some f =>
    if f.isSet d then .error (.unfit (.duplicateField f.name))
    else
      match afterColon with
      | .error e => .error e
      | .ok rest => (f.read rest).map fun (put, rest) => (put d, rest)
  | none =>
    match afterColon with
    | .error e => .error e
    | .ok rest => (skip rest).map (d, ·)

/-- The members from a key's opening quote on, and the object's end. -/
def readMembers (s : Schema ρ α) : Nat → ρ → List Char → Except Fault (α × List Char)
  | 0, _, _ => .error .truncated
  | fuel + 1, d, cs =>
    match readString cs with
    | .error e => .error e
    | .ok (key, rest) =>
      match s.readMember key d rest with
      | .error e => .error e
      | .ok (d, rest) =>
        match skipBlank rest with
        | [] => .error .truncated
        | '\x7d' :: rest => (s.finish d).map (·, rest)
        | ',' :: rest =>
          match skipBlank rest with
          | [] => .error .truncated
          | '"' :: rest => readMembers s fuel d rest
          | _ => .error .malformed
        | _ => .error .malformed

/-- The object whose opening brace has been taken. -/
def readObject (s : Schema ρ α) (cs : List Char) : Except Fault (α × List Char) :=
  match skipBlank cs with
  | [] => .error .truncated
  | '\x7d' :: rest => (s.finish s.empty).map (·, rest)
  | '"' :: rest => s.readMembers (rest.length + 1) s.empty rest
  | _ => .error .malformed

/-- The elements of an array, one for each field. `count` of them have been read. -/
def readElements (s : Schema ρ α) : Nat → ρ → List (Field ρ) → List Char →
    Except Fault (ρ × List Char)
  | _, d, [], cs => .ok (d, cs)
  | count, d, f :: fields, cs =>
    match skipBlank cs with
    | [] => .error .truncated
    | ']' :: _ => .error (.unfit (.invalidLength count s.arrayText))
    | ',' :: rest =>
      if count = 0 then .error .malformed
      else
        match skipBlank rest with
        | [] => .error .truncated
        | ']' :: _ => .error .malformed
        | rest => readOne count d f fields rest
    | rest => if count = 0 then readOne count d f fields rest else .error .malformed
where
  readOne (count : Nat) (d : ρ) (f : Field ρ) (fields : List (Field ρ)) (cs : List Char) :
      Except Fault (ρ × List Char) :=
    match f.read cs with
    | .error e => .error e
    | .ok (put, rest) => readElements s (count + 1) (put d) fields rest

/-- The array whose opening bracket has been taken. -/
def readArray (s : Schema ρ α) (cs : List Char) : Except Fault (α × List Char) :=
  match s.readElements 0 s.empty s.fields cs with
  | .error e => .error e
  | .ok (d, rest) =>
    match s.finish d with
    | .error e => .error e
    | .ok a =>
      match skipBlank rest with
      | [] => .error .truncated
      | ']' :: rest => .ok (a, rest)
      | _ => .error .malformed

/-- A record in either form. -/
def read (s : Schema ρ α) : Reader α := fun cs =>
  match skipBlank cs with
  | '\x7b' :: rest => s.readObject rest
  | '[' :: rest => s.readArray rest
  | cs => readWith (fun found => .error (.invalidType found ("struct " ++ s.name))) cs

end Schema

/-- A text that is one value and nothing else. -/
def decode {α : Type} (read : Reader α) (text : String) : Except Fault α :=
  match read text.toList with
  | .error e => .error e
  | .ok (a, rest) => if (skipBlank rest).isEmpty then .ok a else .error .malformed

/-! ## Writing -/

/-- A double. One that is not finite is `null`. -/
def writeFloat (x : Float) : String := if x.isFinite then Decimal.Layout.json.write x else "null"

/-- An object with its members in the given order, without blanks. -/
def writeObject (members : List (String × String)) : String :=
  let one := fun (name, value) => writeString name ++ ":" ++ value
  "\x7b" ++ ",".intercalate (members.map one) ++ "\x7d"

end Coordination.Json
