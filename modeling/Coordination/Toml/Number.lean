import Coordination.Decimal.Power
import Coordination.Toml.Value

/-!
# TOML numbers, dates and times

Integers of 64 bits in four bases, floats, and dates and times, of which only the form is
checked. Underscores may stand between digits.
-/

namespace Coordination.Toml

/-- A run of digits in which single underscores may stand between two digits. -/
def readDigits (isDigit : Char → Bool) : Token (List Char)
  | [] => none
  | c :: rest => if isDigit c then some (more [c] rest) else none
where
  /-- Continues a run whose digits so far are given in reverse. -/
  more (seen : List Char) : List Char → List Char × List Char
    | [] => (seen.reverse, [])
    | '_' :: c :: rest => if isDigit c then more (c :: seen) rest else (seen.reverse, '_' :: c :: rest)
    | c :: rest => if isDigit c then more (c :: seen) rest else (seen.reverse, c :: rest)

def digitValue (c : Char) : Nat :=
  if c.isDigit then c.toNat - '0'.toNat
  else if 'a' ≤ c then c.toNat - 'a'.toNat + 10
  else c.toNat - 'A'.toNat + 10

def valueInBase (base : Nat) (digits : List Char) : Nat :=
  digits.foldl (fun v c => v * base + digitValue c) 0

def isOctalDigit (c : Char) : Bool := '0' ≤ c && c ≤ '7'
def isBinaryDigit (c : Char) : Bool := c == '0' || c == '1'
def isHexDigit (c : Char) : Bool :=
  c.isDigit || ('a' ≤ c && c ≤ 'f') || ('A' ≤ c && c ≤ 'F')

/-- An integer that fits in 64 bits. -/
def inRange (n : Int) : Option Int := 
  if Int64.minValue.toInt ≤ n ∧ n ≤ Int64.maxValue.toInt then some n else none

/-- An integer without sign in a base other than ten. -/
def readInBase (base : Nat) (isDigit : Char → Bool) (cs : List Char) :
    Option (Value × List Char) := do
  let (digits, rest) ← readDigits isDigit cs
  let n ← inRange (valueInBase base digits)
  return (.integer n, rest)

/-- A sign, if there is one, and whether it is a minus. -/
def takeSign : List Char → Bool × List Char
  | '+' :: rest => (false, rest)
  | '-' :: rest => (true, rest)
  | cs => (false, cs)

/-- The digits of a decimal integer. A zero at the front stands alone. -/
def readWhole : Token (List Char)
  | '0' :: rest => some (['0'], rest)
  | cs => readDigits Char.isDigit cs

/-- Digits of a fraction, after the point. -/
def readFraction? : List Char → Option (Option (List Char × List Char))
  | '.' :: rest => (readDigits Char.isDigit rest).map some
  | _ => some none

/-- A power of ten, if there is one. -/
def readExponent? : List Char → Option (Option (Int × List Char))
  | 'e' :: rest | 'E' :: rest =>
    let (negative, rest) := takeSign rest
    (readDigits Char.isDigit rest).map fun (digits, rest) =>
      let n : Int := valueInBase 10 digits
      some (if negative then -n else n, rest)
  | _ => some none

/-- Whether `digits · 10 ^ exponent` is too large for a double, that is at least halfway from
the largest one to the next power of two. -/
def overflows (digits : Nat) (exponent : Int) : Bool :=
  let limit := Decimal.twoTo 1024 - Decimal.twoTo 970
  if digits = 0 then false
  else if 400 < exponent then true
  else if 0 ≤ exponent then limit ≤ digits * Decimal.tenTo exponent.toNat
  else if (Nat.toDigits 10 digits).length < (-exponent).toNat then false
  else limit * Decimal.tenTo (-exponent).toNat ≤ digits

/-- A decimal number: an integer, or a float if it has a fraction or an exponent. A positive
float must not be infinite. -/
def readDecimal (cs : List Char) : Option (Value × List Char) := do
  let (negative, cs) := takeSign cs
  let (whole, rest) ← readWhole cs
  let fraction ← readFraction? rest
  let (digits, rest) := match fraction with
    | some (f, rest) => (f, rest)
    | none => ([], rest)
  let power ← readExponent? rest
  match fraction, power with
  | none, none =>
    let n : Int := valueInBase 10 whole
    let n ← inRange (if negative then -n else n)
    return (.integer n, rest)
  | _, _ =>
    let (exponent, rest) := power.getD (0, rest)
    let tooLarge := overflows (valueInBase 10 (whole ++ digits)) (exponent - digits.length)
    if tooLarge && !negative then none else return (.float, rest)

/-- `inf` and `nan`, with or without a sign. -/
def readSpecial (cs : List Char) : Option (Value × List Char) :=
  match (takeSign cs).2 with
  | 'i' :: 'n' :: 'f' :: rest | 'n' :: 'a' :: 'n' :: rest => some (.float, rest)
  | _ => none

/-! ## Dates and times -/

/-- A number of exactly `n` digits. -/
def readFixed (n : Nat) (cs : List Char) : Option (Nat × List Char) :=
  let digits := cs.take n
  if digits.length = n ∧ digits.all Char.isDigit then some (valueInBase 10 digits, cs.drop n)
  else none

/-- A number of two digits between two bounds. -/
def readPair (low high : Nat) (cs : List Char) : Option (Nat × List Char) := do
  let (n, rest) ← readFixed 2 cs
  if low ≤ n ∧ n ≤ high then return (n, rest) else none

def readChar (c : Char) : List Char → Option (List Char)
  | d :: rest => if c = d then some rest else none
  | [] => none

def isLeapYear (year : Nat) : Bool := year % 4 == 0 && (year % 100 != 0 || year % 400 == 0)

def daysInMonth (year month : Nat) : Nat :=
  match month with
  | 2 => if isLeapYear year then 29 else 28
  | 4 | 6 | 9 | 11 => 30
  | _ => 31

/-- A date of the calendar. -/
def readDate (cs : List Char) : Option (List Char) := do
  let (year, cs) ← readFixed 4 cs
  let cs ← readChar '-' cs
  let (month, cs) ← readPair 1 12 cs
  let cs ← readChar '-' cs
  let (_, cs) ← readPair 1 (daysInMonth year month) cs
  return cs

/-- A time of day to the second, or finer. The last minute of a day may have a leap second. -/
def readTime (cs : List Char) : Option (List Char) := do
  let (_, cs) ← readPair 0 23 cs
  let cs ← readChar ':' cs
  let (_, cs) ← readPair 0 59 cs
  let cs ← readChar ':' cs
  let (_, cs) ← readPair 0 60 cs
  match cs with
  | '.' :: rest =>
    if (rest.takeWhile Char.isDigit).isEmpty then none else return rest.dropWhile Char.isDigit
  | cs => return cs

/-- How far the time is from universal time, if that is said. -/
def readOffset (cs : List Char) : Option (List Char) :=
  match cs with
  | 'Z' :: rest | 'z' :: rest => some rest
  | '+' :: rest | '-' :: rest => do
    let (_, rest) ← readPair 0 23 rest
    let rest ← readChar ':' rest
    let (_, rest) ← readPair 0 59 rest
    return rest
  | cs => some cs

/-- Whether a time of day could begin here. -/
def startsTime (cs : List Char) : Bool :=
  match cs with
  | a :: b :: ':' :: _ => a.isDigit && b.isDigit
  | _ => false

/-- A date, a time, or both. -/
def readDatetime (cs : List Char) : Option (Value × List Char) :=
  if startsTime cs then (readTime cs).map (.datetime, ·)
  else do
    let rest ← readDate cs
    match rest with
    | c :: time =>
      if (c == 'T' || c == 't' || c == ' ') && startsTime time then
        let rest ← readTime time
        let rest ← readOffset rest
        return (.datetime, rest)
      else return (.datetime, rest)
    | [] => return (.datetime, [])

/-- Whether a date or a time of day begins here. -/
def startsDatetime (cs : List Char) : Bool :=
  startsTime cs ||
    match cs with
    | a :: b :: c :: d :: '-' :: _ => [a, b, c, d].all Char.isDigit
    | _ => false

/-- A number, a date or a time. -/
def readNumeric (cs : List Char) : Option (Value × List Char) :=
  if startsDatetime cs then readDatetime cs
  else
    match cs with
    | '0' :: 'x' :: rest => readInBase 16 isHexDigit rest
    | '0' :: 'o' :: rest => readInBase 8 isOctalDigit rest
    | '0' :: 'b' :: rest => readInBase 2 isBinaryDigit rest
    | cs =>
      match readSpecial cs with
      | some found => some found
      | none => readDecimal cs

end Coordination.Toml
