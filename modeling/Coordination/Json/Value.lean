import Coordination.Json.Number
import Coordination.Json.Text

/-!
# JSON values

Reading one value of a known type, and passing over a value of any type and depth.
-/

namespace Coordination.Json

/-! ## Scalars -/

/-- What stands at the front of the text. A scalar is taken off it; of an array or object only
the bracket is seen. -/
def readFound (cs : List Char) : Except Fault (Found × List Char) :=
  match skipBlank cs with
  | [] => .error .truncated
  | 'n' :: rest => (readWord "ull".toList rest).map (.null, ·)
  | 't' :: rest => (readWord "rue".toList rest).map (.boolean true, ·)
  | 'f' :: rest => (readWord "alse".toList rest).map (.boolean false, ·)
  | '"' :: rest => (readString rest).map fun (s, rest) => (.string s, rest)
  | '[' :: rest => .ok (.array, '[' :: rest)
  | '\x7b' :: rest => .ok (.object, '\x7b' :: rest)
  | c :: rest =>
    if c == '-' || c.isDigit then
      (readNumber (c :: rest)).map fun (n, rest) =>
        match n with
        | .integer n => (.integer n, rest)
        | .float x => (.float x, rest)
    else .error .malformed

/-- Reads a scalar and takes what it must be from it. -/
def readWith {α : Type} (take : Found → Except Mismatch α) : Reader α := fun cs =>
  match readFound cs with
  | .error e => .error e
  | .ok (found, rest) =>
    match take found with
    | .ok a => .ok (a, rest)
    | .error m => .error (.unfit m)

/-- An integer between two bounds. -/
def takeInteger (expected : String) (low high : Int) : Found → Except Mismatch Int
  | .integer n =>
    if low ≤ n ∧ n ≤ high then .ok n else .error (.invalidValue (.integer n) expected)
  | found => .error (.invalidType found expected)

def readI64 : Reader Int64 :=
  readWith fun f => (takeInteger "i64" Int64.minValue.toInt Int64.maxValue.toInt f).map Int64.ofInt

def readU64 : Reader UInt64 :=
  readWith fun f => (takeInteger "u64" 0 ((UInt64.size : Int) - 1) f).map fun n => n.toNat.toUInt64

def readU32 : Reader UInt32 :=
  readWith fun f => (takeInteger "u32" 0 ((UInt32.size : Int) - 1) f).map fun n => n.toNat.toUInt32

/-- A small number that must name something. -/
def readCode {α : Type} (ofNat? : Nat → Option α) (unknown : Nat → String) : Reader α :=
  readWith fun f =>
    match takeInteger "u8" 0 255 f with
    | .error m => .error m
    | .ok n =>
      match ofNat? n.toNat with
      | some a => .ok a
      | none => .error (.unknown (unknown n.toNat))

/-- The double nearest to an integer of 64 bits. -/
def floatOfInteger (n : Int) : Float :=
  if n < 0 then -(n.natAbs.toUInt64.toFloat) else n.toNat.toUInt64.toFloat

/-- A double. Integers are taken for doubles. -/
def readF64 : Reader Float :=
  readWith fun
    | .integer n => .ok (floatOfInteger n)
    | .float x => .ok x
    | found => .error (.invalidType found "f64")

def readText : Reader String :=
  readWith fun
    | .string s => .ok s
    | found => .error (.invalidType found "a string")

/-- A value that may be `null`. -/
def readOptional {α : Type} (read : Reader α) : Reader (Option α) := fun cs =>
  match skipBlank cs with
  | 'n' :: rest => (readWord "ull".toList rest).map (none, ·)
  | cs => (read cs).map fun (a, rest) => (some a, rest)

/-! ## Skipping -/

mutual

/-- Passes over a value. No two calls in a row leave the text as it is, so twice its length is
fuel enough. -/
def skipValue : Nat → List Char → Except Fault (List Char)
  | 0, _ => .error .truncated
  | fuel + 1, cs =>
    match skipBlank cs with
    | [] => .error .truncated
    | 'n' :: rest => readWord "ull".toList rest
    | 't' :: rest => readWord "rue".toList rest
    | 'f' :: rest => readWord "alse".toList rest
    | '"' :: rest => skipString rest
    | '[' :: rest =>
      match skipBlank rest with
      | [] => .error .truncated
      | ']' :: rest => .ok rest
      | rest => skipElements fuel rest
    | '\x7b' :: rest =>
      match skipBlank rest with
      | [] => .error .truncated
      | '\x7d' :: rest => .ok rest
      | rest => skipMembers fuel rest
    | c :: rest => if c == '-' || c.isDigit then skipNumber (c :: rest) else .error .malformed

/-- Passes over the elements of an array and its end. -/
def skipElements : Nat → List Char → Except Fault (List Char)
  | 0, _ => .error .truncated
  | fuel + 1, cs =>
    match skipValue fuel cs with
    | .error e => .error e
    | .ok rest =>
      match skipBlank rest with
      | [] => .error .truncated
      | ',' :: rest => skipElements fuel rest
      | ']' :: rest => .ok rest
      | _ => .error .malformed

/-- Passes over the members of an object and its end. -/
def skipMembers : Nat → List Char → Except Fault (List Char)
  | 0, _ => .error .truncated
  | fuel + 1, cs =>
    match skipBlank cs with
    | [] => .error .truncated
    | '"' :: rest =>
      match skipString rest with
      | .error e => .error e
      | .ok rest =>
        match skipBlank rest with
        | [] => .error .truncated
        | ':' :: rest =>
          match skipValue fuel rest with
          | .error e => .error e
          | .ok rest =>
            match skipBlank rest with
            | [] => .error .truncated
            | ',' :: rest => skipMembers fuel rest
            | '\x7d' :: rest => .ok rest
            | _ => .error .malformed
        | _ => .error .malformed
    | _ => .error .malformed

end

/-- Passes over a value of any type. -/
def skip (cs : List Char) : Except Fault (List Char) := skipValue (2 * cs.length + 2) cs

end Coordination.Json
