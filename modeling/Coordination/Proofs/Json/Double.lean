import Coordination.Json.Record
import Coordination.Proofs.Decimal.Finite
import Coordination.Proofs.Json.Number

/-!
# Doubles that are read and written

A number that is read is never infinite and never no number (`isFinite_of_readNumber`), however
large its digits and its exponent are: an integer of 64 bits is a finite double, a power of ten
that divides is at least ten, and a product that is infinite is refused.

Reading computes a double in more than one rounding. So it need not find the double again from
the shortest digits that round to it, and whether it does is asked of each double
(`readsBack`).
-/

namespace Coordination.Json

open Decimal (isFinite_div isFinite_mul isFinite_neg isFinite_toFloat isLarge)

/-! ## Powers of ten -/

theorem isLarge_powerOfTen {n : Nat} (hpos : 0 < n) (hle : n ≤ 308) :
    isLarge (powerOfTen n) = true := by
  have hall : ∀ n < 309, 0 < n → isLarge (powerOfTen n) = true := by decide +kernel
  exact hall n (by omega) hpos

theorem isFinite_powerOfTen {n : Nat} (hle : n ≤ 308) : (powerOfTen n).isFinite = true := by
  rcases Nat.eq_zero_or_pos n with rfl | hpos
  · decide +kernel
  · exact Decimal.isFinite_of_isLarge (isLarge_powerOfTen hpos hle)

theorem isFinite_divideByTen (fuel : Nat) {x : Float} (hx : x.isFinite = true) {n : Nat}
    (hpos : 0 < n) : (divideByTen fuel x n).isFinite = true := by
  induction fuel generalizing x n with
  | zero => exact hx
  | succ fuel ih =>
    rw [divideByTen]
    split
    · rename_i hle
      exact isFinite_div hx (isLarge_powerOfTen hpos hle)
    · split
      · exact hx
      · exact ih (isFinite_div hx (isLarge_powerOfTen (by decide) (by decide))) (by omega)

theorem Significand.isFinite_of_toFloat? {s : Significand} {x : Float}
    (h : s.toFloat? = some x) : x.isFinite = true := by
  have hdigits := isFinite_toFloat s.digits.toUInt64
  unfold toFloat? at h
  dsimp only at h
  split at h
  · rw [← Option.some.inj h]
    exact isFinite_divideByTen _ hdigits (by omega)
  · split at h
    · split at h
      · rwa [← Option.some.inj h]
      · cases h
    · split at h
      · cases h
      · rename_i hlarge hinf
        rw [← Option.some.inj h]
        exact isFinite_mul hdigits (isFinite_powerOfTen (by omega)) (Bool.eq_false_iff.2 hinf)

/-! ## Numbers that are read -/

/-- Integers are finite. -/
def Number.isFinite : Number → Bool
  | integer _ => true
  | float x => x.isFinite

section

variable {negative down : Bool} {s : Significand} {x : Number} {cs r : List Char}

theorem isFinite_signed {x : Float} (h : x.isFinite = true) (negative : Bool) :
    (if negative then -x else x).isFinite = true := by
  cases negative with
  | false => exact h
  | true => exact isFinite_neg h

theorem isFinite_of_floatOf (h : floatOf negative s cs = .ok (x, r)) : x.isFinite = true := by
  unfold floatOf at h
  split at h
  · rename_i hfloat
    obtain ⟨rfl, -⟩ := Prod.mk.inj (Except.ok.inj h)
    exact isFinite_signed (Significand.isFinite_of_toFloat? hfloat) negative
  · cases h

theorem isFinite_of_wholeNumber (h : wholeNumber negative s cs = .ok (x, r)) :
    x.isFinite = true := by
  unfold wholeNumber at h
  split at h
  · exact isFinite_of_floatOf h
  · split at h
    · obtain ⟨rfl, -⟩ := Prod.mk.inj (Except.ok.inj h)
      rfl
    · split at h
      · obtain ⟨rfl, -⟩ := Prod.mk.inj (Except.ok.inj h)
        rfl
      · exact isFinite_of_floatOf h

theorem isFinite_of_readPower (h : readPower negative down s cs = .ok (x, r)) :
    x.isFinite = true := by
  unfold readPower at h
  split at h
  · cases h
  · split at h
    · cases h
    · split at h
      · exact isFinite_of_floatOf h
      · split at h
        · cases h
        · obtain ⟨rfl, -⟩ := Prod.mk.inj (Except.ok.inj h)
          cases negative <;> decide +kernel

theorem isFinite_of_readExponent (h : readExponent negative s cs = .ok (x, r)) :
    x.isFinite = true := by
  cases cs with
  | nil => cases h
  | cons c cs =>
    rw [readExponent_cons] at h
    split at h
    · exact isFinite_of_readPower h
    · split at h <;> exact isFinite_of_readPower h

theorem isFinite_of_readScale (h : readScale negative s cs = .ok (x, r)) : x.isFinite = true := by
  unfold readScale at h
  split at h
  · exact isFinite_of_readExponent h
  · exact isFinite_of_readExponent h
  · exact isFinite_of_floatOf h

theorem isFinite_of_readFraction (h : readFraction negative s cs = .ok (x, r)) :
    x.isFinite = true := by
  unfold readFraction at h
  split at h
  · cases h
  · split at h
    · cases h
    · exact isFinite_of_readScale h

theorem isFinite_of_continueWith (h : readMagnitude.continueWith negative s cs = .ok (x, r)) :
    x.isFinite = true := by
  unfold readMagnitude.continueWith at h
  split at h
  · exact isFinite_of_readFraction h
  · exact isFinite_of_readExponent h
  · exact isFinite_of_readExponent h
  · exact isFinite_of_wholeNumber h

theorem isFinite_of_readMagnitude (h : readMagnitude negative cs = .ok (x, r)) :
    x.isFinite = true := by
  unfold readMagnitude at h
  split at h
  · cases h
  · split at h
    · cases h
    · exact isFinite_of_continueWith h
  · split at h
    · cases h
    · exact isFinite_of_continueWith h

/-- What is read as a number is finite. -/
theorem isFinite_of_readNumber (h : readNumber cs = .ok (x, r)) : x.isFinite = true := by
  unfold readNumber at h
  split at h <;> exact isFinite_of_readMagnitude h

end

theorem isFinite_floatOfInteger (n : Int) : (floatOfInteger n).isFinite = true := by
  unfold floatOfInteger
  split
  · exact isFinite_neg (isFinite_toFloat _)
  · exact isFinite_toFloat _

/-! ## Doubles that read back -/

/-- Whether what is written for a double is read as this double. -/
def readsBack (x : Float) : Bool :=
  match readNumber (writeFloat x).toList with
  | .ok (.float y, []) => decide (y = x)
  | _ => false

-- The seventeen digits of the second double are rounded once, and their quotient once more.
example : readsBack 98.7654 = true := by decide +kernel
example : readsBack 31.245270191439438 = false := by decide +kernel

theorem readNumber_of_readsBack {x : Float} (h : readsBack x = true) :
    readNumber (writeFloat x).toList = .ok (.float x, []) := by
  unfold readsBack at h
  split at h
  · rename_i hread
    rw [hread, of_decide_eq_true h]
  · cases h

end Coordination.Json
