import Coordination.Json.Fault

/-!
# JSON numbers

A number without fraction and exponent is an integer if 64 bits can hold it. Any other is a
double, computed from as many leading digits as 64 bits can hold and one multiplication or
division by a power of ten; a double that would be infinite is refused.
-/

namespace Coordination.Json

/-- A number that was read. -/
inductive Number where
  | integer (n : Int)
  | float (x : Float)

/-- Significant digits and a power of ten by which they are still to be multiplied. -/
structure Significand where
  digits : Nat := 0
  exponent : Int := 0

def digitValue (c : Char) : Nat := c.toNat - '0'.toNat

/-- Takes one more digit, if 64 bits can hold it. -/
def push? (n : Nat) (c : Char) : Option Nat :=
  let n := n * 10 + digitValue c
  if n < UInt64.size then some n else none

/-- Ten to a power that a double can hold. -/
def powerOfTen (n : Nat) : Float := Float.ofScientific 1 false n

/-- Divides by a power of ten that may be too large for a double, in steps that are not. -/
def divideByTen : Nat → Float → Nat → Float
  | 0, x, _ => x
  | fuel + 1, x, n =>
    if n ≤ 308 then x / powerOfTen n
    else if x == 0 then x
    else divideByTen fuel (x / powerOfTen 308) (n - 308)

/-- The double that a significand stands for. -/
def Significand.toFloat? (s : Significand) : Option Float :=
  let x := s.digits.toUInt64.toFloat
  if s.exponent < 0 then
    let n := s.exponent.natAbs
    some (divideByTen (n / 308 + 1) x n)
  else if 308 < s.exponent then if x == 0 then some x else none
  else
    let x := x * powerOfTen s.exponent.toNat
    if x.isInf then none else some x

/-- The double with its sign. -/
def floatOf (negative : Bool) (s : Significand) (rest : List Char) :
    Except Fault (Number × List Char) :=
  match s.toFloat? with
  | some x => .ok (.float (if negative then -x else x), rest)
  | none => .error .malformed

/-- The value of an exponent's digits, unless it needs more than 31 bits. -/
def exponentValue? (digits : List Char) : Option Nat :=
  let n := Nat.ofDigitChars 10 digits 0
  if n ≤ Int32.maxValue.toNatClampNeg then some n else none

/-- What follows the letter of an exponent. -/
def readExponent (negative : Bool) (s : Significand) (cs : List Char) :
    Except Fault (Number × List Char) :=
  let (down, cs) := match cs with
    | '+' :: r => (false, r)
    | '-' :: r => (true, r)
    | r => (false, r)
  match cs with
  | [] => .error .truncated
  | c :: _ =>
    if !c.isDigit then .error .malformed
    else
      let rest := cs.dropWhile Char.isDigit
      match exponentValue? (cs.takeWhile Char.isDigit) with
      | some n =>
        floatOf negative { s with exponent := s.exponent + if down then -(n : Int) else n } rest
      | none =>
        if s.digits ≠ 0 ∧ !down then .error .malformed
        else .ok (.float (if negative then -0.0 else 0.0), rest)

/-- The digits of a fraction. Once 64 bits cannot hold one, it and those after it are passed
over. -/
def takeFraction (s : Significand) : List Char → Significand × List Char
  | [] => (s, [])
  | c :: rest =>
    if c.isDigit then
      match push? s.digits c with
      | some digits => takeFraction ⟨digits, s.exponent - 1⟩ rest
      | none => (s, rest.dropWhile Char.isDigit)
    else (s, c :: rest)

/-- An exponent, if there is one. -/
def readScale (negative : Bool) (s : Significand) (cs : List Char) :
    Except Fault (Number × List Char) :=
  match cs with
  | 'e' :: rest | 'E' :: rest => readExponent negative s rest
  | rest => floatOf negative s rest

/-- What follows the point. -/
def readFraction (negative : Bool) (s : Significand) (cs : List Char) :
    Except Fault (Number × List Char) :=
  match cs with
  | [] => .error .truncated
  | c :: _ =>
    if !c.isDigit then .error .malformed
    else
      let (s, rest) := takeFraction s cs
      readScale negative s rest

/-- The digits before the point. Once 64 bits cannot hold one, it and those after it only count
as powers of ten. -/
def takeWhole (digits : Nat) : List Char → Significand × List Char
  | [] => (⟨digits, 0⟩, [])
  | c :: rest =>
    if c.isDigit then
      match push? digits c with
      | some digits => takeWhole digits rest
      | none =>
        (⟨digits, 1 + ((rest.takeWhile Char.isDigit).length : Int)⟩, rest.dropWhile Char.isDigit)
    else (⟨digits, 0⟩, c :: rest)

/-- A number without fraction and exponent. Minus zero is a double. -/
def wholeNumber (negative : Bool) (s : Significand) (rest : List Char) :
    Except Fault (Number × List Char) :=
  if s.exponent ≠ 0 then floatOf negative s rest
  else if !negative then .ok (.integer s.digits, rest)
  else if s.digits ≠ 0 ∧ s.digits ≤ Int64.minValue.toInt.natAbs then .ok (.integer (-s.digits), rest)
  else floatOf negative s rest

/-- A number from its first digit on. -/
def readMagnitude (negative : Bool) (cs : List Char) : Except Fault (Number × List Char) :=
  match cs with
  | [] => .error .truncated
  | '0' :: c :: rest =>
    if c.isDigit then .error .malformed else continueWith ⟨0, 0⟩ (c :: rest)
  | c :: rest =>
    if !c.isDigit then .error .malformed
    else
      let (s, rest) := takeWhole 0 (c :: rest)
      continueWith s rest
where
  continueWith (s : Significand) : List Char → Except Fault (Number × List Char)
    | '.' :: rest => readFraction negative s rest
    | 'e' :: rest | 'E' :: rest => readExponent negative s rest
    | rest => wholeNumber negative s rest

/-- A number. -/
def readNumber : List Char → Except Fault (Number × List Char)
  | '-' :: rest => readMagnitude true rest
  | cs => readMagnitude false cs

/-! ## Numbers that are skipped -/

/-- At least one digit. -/
def skipDigits (cs : List Char) : Except Fault (List Char) :=
  if (cs.takeWhile Char.isDigit).isEmpty then .error .malformed
  else .ok (cs.dropWhile Char.isDigit)

def skipExponent : List Char → Except Fault (List Char)
  | 'e' :: rest | 'E' :: rest =>
    match rest with
    | '+' :: rest | '-' :: rest => skipDigits rest
    | rest => skipDigits rest
  | cs => .ok cs

/-- Passes over a number, whose form alone is checked. -/
def skipNumber (cs : List Char) : Except Fault (List Char) :=
  let cs := match cs with
    | '-' :: rest => rest
    | cs => cs
  match cs with
  | '0' :: c :: rest => if c.isDigit then .error .malformed else afterWhole (c :: rest)
  | cs =>
    match skipDigits cs with
    | .ok rest => afterWhole rest
    | .error e => .error e
where
  afterWhole : List Char → Except Fault (List Char)
    | '.' :: rest =>
      match skipDigits rest with
      | .ok rest => skipExponent rest
      | .error e => .error e
    | rest => skipExponent rest

end Coordination.Json
