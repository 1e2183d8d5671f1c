import Coordination.Decimal.Shortest

/-!
# Number text

The three ways in which this service writes a double. All of them use the shortest digits; they
differ in where positional notation ends and in how an exponent is written.
-/

namespace Coordination.Decimal

/-- How a double is laid out. -/
structure Layout where
  /-- The smallest exponent of the first digit that is written positionally. -/
  positionalFrom : Int
  /-- The first exponent of the first digit that is no longer written positionally. -/
  positionalBelow : Int := 16
  /-- Whether a positive exponent has a sign. -/
  plus : Bool
  tie : Tie

namespace Layout

/-- JSON numbers: positional from `0.00001` to below `1e+16`. -/
def json : Layout := ⟨-5, 16, true, .toEven⟩

/-- Numbers in a query: positional from `0.00001` to below `1e16`. -/
def query : Layout := ⟨-5, 16, false, .toEven⟩

/-- Numbers in messages: positional from `0.0001` to below `1e16`. -/
def message : Layout := ⟨-4, 16, false, .up⟩

/-- Positional text of `digits · 10 ^ exponent`, with at least one digit on either side of the
point. -/
def positional (digits : List Char) (exponent : Int) : List Char :=
  if 0 ≤ exponent then digits ++ List.replicate exponent.toNat '0' ++ ['.', '0']
  else
    let places := (-exponent).toNat
    let padded := List.replicate (places + 1 - digits.length) '0' ++ digits
    let whole := padded.length - places
    padded.take whole ++ '.' :: padded.drop whole

/-- Text of the first digit, a point and the other digits if there are any, and the exponent. -/
def scientific (plus : Bool) (digits : List Char) (lead : Int) : List Char :=
  let fraction := match digits.drop 1 with
    | [] => []
    | rest => '.' :: rest
  let sign := if lead < 0 then ['-'] else if plus then ['+'] else []
  digits.take 1 ++ fraction ++ 'e' :: sign ++ Nat.toDigits 10 lead.natAbs

def magnitude (layout : Layout) (d : Digits) : List Char :=
  if d.digits = 0 then ['0', '.', '0']
  else
    let digits := Nat.toDigits 10 d.digits
    let lead := d.exponent + digits.length - 1
    if layout.positionalFrom ≤ lead ∧ lead < layout.positionalBelow then
      positional digits d.exponent
    else scientific layout.plus digits lead

def signed (negative : Bool) (text : List Char) : String :=
  String.ofList (if negative then '-' :: text else text)

/-- The text of a double. -/
def write (layout : Layout) (x : Float) : String :=
  match Binary64.ofFloat x with
  | .nan => "NaN"
  | .infinite negative => signed negative ['i', 'n', 'f']
  | .finite negative v => signed negative (layout.magnitude (v.shortest layout.tie))

end Layout

/-- The text of a double with a fixed number of decimal places. Its exact value is rounded, and
an exact half goes to the even neighbour. -/
def fixed (places : Nat) (x : Float) : String :=
  match Binary64.ofFloat x with
  | .nan => "NaN"
  | .infinite negative => Layout.signed negative ['i', 'n', 'f']
  | .finite negative v =>
    let rounded := roundDiv (v.mantissa * twoTo v.exponent.toNat * tenTo places)
      (twoTo (-v.exponent).toNat) .toEven
    let digits := Nat.toDigits 10 rounded
    let padded := List.replicate (places + 1 - digits.length) '0' ++ digits
    let whole := padded.length - places
    let fraction := if places = 0 then [] else '.' :: padded.drop whole
    Layout.signed negative (padded.take whole ++ fraction)

end Coordination.Decimal
