import Coordination.Decimal.Binary64
import Coordination.Decimal.Rounding

/-!
# The fewest digits that read back

Of the decimal numbers that round to a double, one with the fewest digits, and of those the
nearest. For each number of digits the two neighbours of the double on that decimal grid are
tried: if any point of the grid rounds to the double, one of them does.
-/

namespace Coordination.Decimal

/-- The number `digits · 10 ^ exponent`. -/
structure Digits where
  digits : Nat
  exponent : Int
deriving DecidableEq, Repr

namespace Digits

/-- Moves the zeros at the end into the exponent, at most `fuel` of them. -/
def stripZeros : Nat → Digits → Digits
  | 0, d => d
  | fuel + 1, d =>
    if d.digits ≠ 0 ∧ d.digits % 10 = 0 then stripZeros fuel ⟨d.digits / 10, d.exponent + 1⟩ else d

end Digits

namespace Magnitude

/-- The point nearest to the double on the grid of multiples of `10 ^ k`, if a neighbour of the
double on that grid rounds to it. -/
def gridPoint? (v : Magnitude) (tie : Tie) (k : Int) : Option Nat :=
  let (a, b) := v.gridScale k
  let num := 4 * v.mantissa * a
  let near := roundDiv num b tie
  let floor := num / b
  let far := if near = floor then floor + 1 else floor
  if v.roundsFrom k near then some near
  else if v.roundsFrom k far then some far
  else none

/-- The shortest decimal that rounds to the double. Seventeen digits always suffice. -/
def shortest (v : Magnitude) (tie : Tie) : Digits :=
  if v.mantissa = 0 then ⟨0, 0⟩
  else
    let lead := v.leadingExponent
    match (List.range 17).findSome? fun (n : Nat) =>
      let k := lead - n
      (v.gridPoint? tie k).map fun point => Digits.mk point k with
    | some d => d.stripZeros 17
    | none => ⟨v.mantissa, v.exponent⟩

end Magnitude

end Coordination.Decimal
