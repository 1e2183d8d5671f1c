import Mathlib
import Coordination.Proofs.Decimal.Nearest

/-!
# The bits of a double

A double that is a number is its sign and the number of its magnitude in the order of magnitudes
(`ofIndex_index`, `ofIndex_infinity`), and there is only one double that is no number (`eq_nan`).
-/

namespace Coordination.Decimal

/-- The double with a sign and a number in the order of magnitudes. -/
def ofIndex (negative : Bool) (index : ℕ) : Float :=
  .ofBits (.ofNat ((if negative then 2 ^ 63 else 0) + index))

/-- The number that follows that of the largest finite magnitude. -/
def infinityIndex : ℕ := 0x7FF * twoTo 52

section

variable {x : Float} {negative : Bool} {v : Magnitude} (bits : UInt64)

theorem toNat_signBit : (bits >>> 63 == 1) = decide (2 ^ 63 ≤ bits.toNat) := by
  have hlt := bits.toNat_lt
  have hshift : (bits >>> 63).toNat = bits.toNat / 2 ^ 63 := by
    rw [UInt64.toNat_shiftRight, Nat.shiftRight_eq_div_pow]
    rfl
  rw [Bool.eq_iff_iff, beq_iff_eq, decide_eq_true_eq, ← UInt64.toNat_inj, hshift]
  show bits.toNat / 2 ^ 63 = 1 ↔ _
  omega

theorem toNat_exponentBits : (bits >>> 52 &&& 0x7FF).toNat = bits.toNat / 2 ^ 52 % 2 ^ 11 := by
  rw [UInt64.toNat_and, UInt64.toNat_shiftRight, Nat.shiftRight_eq_div_pow]
  exact Nat.and_two_pow_sub_one_eq_mod _ 11

theorem toNat_fractionBits : (bits &&& 0xFFFFFFFFFFFFF).toNat = bits.toNat % 2 ^ 52 := by
  rw [UInt64.toNat_and]
  exact Nat.and_two_pow_sub_one_eq_mod _ 52

/-- The kinds of doubles, told from the bits as a number. -/
theorem ofBits_eq : Binary64.ofBits bits =
    if bits.toNat / 2 ^ 52 % 2 ^ 11 = 0x7FF then
      if bits.toNat % 2 ^ 52 = 0 then .infinite (decide (2 ^ 63 ≤ bits.toNat)) else .nan
    else if bits.toNat / 2 ^ 52 % 2 ^ 11 = 0 then
      .finite (decide (2 ^ 63 ≤ bits.toNat)) ⟨bits.toNat % 2 ^ 52, -1074⟩
    else .finite (decide (2 ^ 63 ≤ bits.toNat))
      ⟨twoTo 52 + bits.toNat % 2 ^ 52, (bits.toNat / 2 ^ 52 % 2 ^ 11 : ℕ) - 1075⟩ := by
  unfold Binary64.ofBits
  dsimp only
  rw [toNat_signBit, toNat_exponentBits, toNat_fractionBits]

/-- A double is its sign and the other bits as a number. -/
theorem ofIndex_eq {index : ℕ} (h : x.toBits.toNat % 2 ^ 63 = index) :
    ofIndex (decide (2 ^ 63 ≤ x.toBits.toNat)) index = x := by
  have hlt := x.toBits.toNat_lt
  have hbits : (if decide (2 ^ 63 ≤ x.toBits.toNat) then 2 ^ 63 else 0) + index =
      x.toBits.toNat := by
    simp only [decide_eq_true_eq]
    split <;> omega
  unfold ofIndex
  rw [hbits, UInt64.ofNat_toNat, Float.ofBits_toBits]

theorem ofIndex_infinity (h : Binary64.ofFloat x = .infinite negative) :
    ofIndex negative infinityIndex = x := by
  have hindex : infinityIndex = 0x7FF * 2 ^ 52 := rfl
  unfold Binary64.ofFloat at h
  rw [ofBits_eq] at h
  split at h
  · split at h
    · obtain rfl := Binary64.infinite.inj h
      apply ofIndex_eq
      rw [hindex]
      omega
    · cases h
  · split at h <;> cases h

/-- The parts of a finite double, and the double from them. -/
theorem ofIndex_index (h : Binary64.ofFloat x = .finite negative v) :
    v.Canonical ∧ ofIndex negative v.index = x := by
  have h52 : twoTo 52 = 2 ^ 52 := rfl
  unfold Binary64.ofFloat at h
  rw [ofBits_eq] at h
  split at h
  · split at h <;> cases h
  · split at h
    · obtain ⟨rfl, rfl⟩ := Binary64.finite.inj h
      refine ⟨by constructor <;> dsimp only <;> omega, ofIndex_eq ?_⟩
      rw [Magnitude.index, h52]
      dsimp only
      omega
    · obtain ⟨rfl, rfl⟩ := Binary64.finite.inj h
      refine ⟨by constructor <;> dsimp only <;> omega, ofIndex_eq ?_⟩
      rw [Magnitude.index, h52]
      dsimp only
      omega

open Float.Model (Format) in
open Float.Model.UnpackedFloat in
/-- Of all bits that are no number a double has one pattern only. -/
theorem eq_nan (h : Binary64.ofFloat x = .nan) : x = Float.nan := by
  unfold Binary64.ofFloat at h
  rw [ofBits_eq] at h
  split at h
  · rename_i hexponent
    split at h
    · cases h
    · rename_i hfraction
      have hones : @unpackExponent Format.binary64 x.toBits.toBitVec = -1#11 := by
        rw [unpackExponent_def]
        apply BitVec.eq_of_toNat_eq
        rw [BitVec.extractLsb'_toNat, Nat.shiftRight_eq_div_pow]
        exact hexponent
      have hne : @unpackMantissa Format.binary64 x.toBits.toBitVec ≠ 0#52 := by
        rw [unpackMantissa_def]
        intro hzero
        apply hfraction
        have hnat := congrArg BitVec.toNat hzero
        rwa [BitVec.extractLsb'_toNat, Nat.shiftRight_zero] at hnat
      rw [← Float.toBits_inj, ← UInt64.toBitVec_inj]
      exact x.toModel.valid.eq_packedNaN hones hne
  · split at h <;> cases h

end

end Coordination.Decimal
