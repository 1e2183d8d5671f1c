import Coordination.Decimal.Power

/-!
# Doubles as exact numbers

A finite double is a sign and `mantissa · 2 ^ exponent`. The reals that round to it are the
interval around that number, which is half as wide below a power of two.
-/

namespace Coordination.Decimal

/-- The magnitude `mantissa · 2 ^ exponent` of a finite double. -/
structure Magnitude where
  mantissa : Nat
  exponent : Int
deriving DecidableEq, Repr

/-- What kind of number a double is. -/
inductive Binary64 where
  | nan
  | infinite (negative : Bool)
  | finite (negative : Bool) (magnitude : Magnitude)
deriving DecidableEq, Repr

/-- Reads the sign, the eleven exponent bits and the fraction of a double. -/
def Binary64.ofBits (bits : UInt64) : Binary64 :=
  let negative := bits >>> 63 == 1
  let exponent := (bits >>> 52 &&& 0x7FF).toNat
  let fraction := (bits &&& 0xFFFFFFFFFFFFF).toNat
  if exponent = 0x7FF then
    if fraction = 0 then .infinite negative else .nan
  else if exponent = 0 then .finite negative ⟨fraction, -1074⟩
  else .finite negative ⟨twoTo 52 + fraction, (exponent : Int) - 1075⟩

def Binary64.ofFloat (x : Float) : Binary64 := .ofBits x.toBits

namespace Magnitude

/-- Whether the next smaller double is only half a step away. -/
def isBoundary (v : Magnitude) : Bool := v.mantissa == twoTo 52 && v.exponent != -1074

/-- A fraction with numerator `n` in quarters of the mantissa's unit, over `10 ^ k`: the pair
of numbers by which `n` and a grid point are multiplied before they are compared. -/
def gridScale (v : Magnitude) (k : Int) : Nat × Nat :=
  let binary := v.exponent - 2
  (twoTo binary.toNat * tenTo (-k).toNat, twoTo (-binary).toNat * tenTo k.toNat)

/-- Whether `point · 10 ^ k` rounds to the double. The interval's ends round to it exactly if
its mantissa is even. -/
def roundsFrom (v : Magnitude) (k : Int) (point : Nat) : Bool :=
  let (a, b) := v.gridScale k
  let low := (4 * v.mantissa - if v.isBoundary then 1 else 2) * a
  let high := (4 * v.mantissa + 2) * a
  let x := point * b
  if v.mantissa % 2 = 0 then low ≤ x && x ≤ high else low < x && x < high

/-- The exponent of ten of the first digit, for a magnitude other than zero. Every such double
is above `10 ^ -350`, so that many decimal places show a digit. -/
def leadingExponent (v : Magnitude) : Int :=
  let shifted := v.mantissa * tenTo 350 * twoTo v.exponent.toNat / twoTo (-v.exponent).toNat
  ((Nat.toDigits 10 shifted).length : Int) - 351

end Magnitude

end Coordination.Decimal
