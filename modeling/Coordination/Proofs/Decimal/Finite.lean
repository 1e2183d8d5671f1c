import Mathlib.Algebra.Group.Nat.Defs
import Mathlib.Data.Int.Order.Basic

/-!
# Operations that stay finite

A double holds a mantissa below `2 ^ 53` and an exponent of at most 971. Rounding increases the
exponent only as far as the mantissa has too many bits, so a result that is below `2 ^ 1023`
before it is rounded fits afterwards (`fits_roundWithAccuracy`). Hence an integer of 64 bits, the
negation of a finite double and its quotient by a double of at least eight are finite, and the
product of finite doubles is a number, though it may be infinite.
-/

namespace Coordination.Decimal

open Float.Model (UnpackedFloat Format totalExponent)
open Float.Model.UnpackedFloat

/-! ## What fits -/

/-- Zero, or a number whose exponent a double can hold. -/
def Fits : UnpackedFloat → Prop
  | .zero _ => True
  | .finite _ _ exponent _ => exponent ≤ 971
  | _ => False

theorem isFinite_unpack (b : BitVec 64) :
    (unpack Format.binary64 b).isFinite = true ↔
      @unpackExponent Format.binary64 b ≠ -1#11 := by
  unfold unpack
  dsimp only
  by_cases hones : @unpackExponent Format.binary64 b = -1#11
  · rw [if_pos hones]
    by_cases hfraction : @unpackMantissa Format.binary64 b = 0#52
    · rw [if_pos hfraction]
      exact iff_of_false Bool.false_ne_true (not_not_intro hones)
    · rw [if_neg hfraction]
      exact iff_of_false Bool.false_ne_true (not_not_intro hones)
  rw [if_neg hones]
  by_cases hzero : @unpackExponent Format.binary64 b = 0#11
  · rw [if_pos hzero]
    by_cases hfraction : @unpackMantissa Format.binary64 b = 0#52
    · rw [dif_pos hfraction]
      exact iff_of_true rfl hones
    · rw [dif_neg hfraction]
      exact iff_of_true rfl hones
  · rw [if_neg hzero]
    exact iff_of_true rfl hones

/-- The exponent as it is stored, without its bound. -/
def biased (e : Int) : Nat := (e + 1023 + 52).toNat

theorem pack_finite (s : Sign) (m : Nat) (e : Int) (hm : 0 < m) :
    pack Format.binary64 (.finite s m e hm) =
      if 2 ^ 11 ≤ biased e + 1 then packedInfinity Format.binary64 s
      else if m.log2 + 1 = Format.binary64.mantissaBits then
        packComponents Format.binary64 s (BitVec.ofNat 11 (biased e)) (BitVec.ofNat 52 m)
      else packComponents Format.binary64 s 0#11 (BitVec.ofNat 52 m) := rfl

/-- The eleven bits of an exponent that is not the largest. -/
theorem ofNat_ne_neg_one {n : Nat} (h : n + 1 < 2 ^ 11) : BitVec.ofNat 11 n ≠ -1#_ := by
  intro heq
  have hnat := congrArg BitVec.toNat heq
  rw [BitVec.toNat_ofNat, Nat.mod_eq_of_lt (by omega)] at hnat
  have hones : (-1#11).toNat = 2 ^ 11 - 1 := by decide
  omega

/-- A number that fits is finite as a double. -/
theorem isFinite_pack {u : UnpackedFloat} (h : Fits u) :
    (Float.ofModel (.pack u)).isFinite = true := by
  show (unpack Format.binary64 (pack Format.binary64 u)).isFinite = true
  rw [isFinite_unpack]
  cases u with
  | infinity s => cases h
  | notANumber => cases h
  | zero s =>
    show unpackExponent (packComponents Format.binary64 s 0 0) ≠ -1#11
    rw [unpackExponent_packComponents]
    decide
  | finite s m e hm =>
    have hbias : biased e + 1 < 2 ^ 11 := by
      have he : e ≤ 971 := h
      rw [biased]
      omega
    rw [pack_finite, if_neg (Nat.not_le.2 hbias)]
    split
    · rw [unpackExponent_packComponents]
      exact ofNat_ne_neg_one hbias
    · rw [unpackExponent_packComponents]
      decide

/-- The parts of a double that is not zero. -/
theorem bounds_of_unpack {b : BitVec 64} {s : Sign} {m : Nat} {e : Int} {hm : 0 < m}
    (h : unpack Format.binary64 b = .finite s m e hm) : m < 2 ^ 53 ∧ e ≤ 971 := by
  have hones : @unpackExponent Format.binary64 b ≠ -1#11 :=
    (isFinite_unpack b).1 (by rw [h]; rfl)
  have hbias : Format.binary64.exponentBias = 1023 := rfl
  unfold unpack at h
  dsimp only at h
  rw [if_neg hones] at h
  by_cases hzero : @unpackExponent Format.binary64 b = 0#11
  · rw [if_pos hzero] at h
    by_cases hfraction : @unpackMantissa Format.binary64 b = 0#52
    · rw [dif_pos hfraction] at h
      cases h
    · rw [dif_neg hfraction] at h
      obtain ⟨-, hmantissa, hexponent⟩ := UnpackedFloat.finite.inj h
      have hlt := (@unpackMantissa Format.binary64 b).isLt
      have hnil : (0#11).toNat = 0 := rfl
      rw [hzero] at hexponent
      exact ⟨by omega, by omega⟩
  · rw [if_neg hzero] at h
    obtain ⟨-, hmantissa, hexponent⟩ := UnpackedFloat.finite.inj h
    have hlt := (1#1 ++ @unpackMantissa Format.binary64 b).isLt
    have hexp : (@unpackExponent Format.binary64 b).toNat ≠ 2 ^ 11 - 1 := by
      intro heq
      exact hones (BitVec.eq_of_toNat_eq (heq.trans (by decide)))
    have hexplt := (@unpackExponent Format.binary64 b).isLt
    exact ⟨by omega, by omega⟩

/-! ## Rounding -/

theorem mantissa_shiftRight (em : ExtendedMantissa) (k : Nat) :
    (em >>> k).mantissa = em.mantissa / 2 ^ k := by
  induction k with
  | zero => exact (Nat.div_one _).symm
  | succ k ih =>
    show (em >>> k).mantissa / 2 = _
    rw [ih, Nat.div_div_eq_div_mul, Nat.pow_succ]

theorem roundedMantissa_le (em : ExtendedMantissa) : em.roundedMantissa ≤ em.mantissa + 1 := by
  obtain ⟨m, round, sticky⟩ := em
  cases round with
  | false => cases sticky <;> exact Nat.le_succ m
  | true =>
    cases sticky with
    | false =>
      show m + m % 2 ≤ m + 1
      omega
    | true => exact Nat.le_refl (m + 1)

/-- The exponent that the bits of a mantissa are shifted to. -/
def target (m : Nat) (e : Int) : Int := Format.binary64.targetExponent (totalExponent m e)

theorem target_eq (m : Nat) (e : Int) : target m e = max (m.log2 + 1 + e - 53) (-1074) := rfl

theorem mantissa_shiftToTargetExponent (m : Nat) (e : Int) (a : Accuracy) :
    (shiftToTargetExponent Format.binary64 m e a).1.mantissa =
      m / 2 ^ (target m e - e).toNat := by
  have hmantissa : (ExtendedMantissa.ofMantissaAndAccuracy m a).mantissa = m := by
    cases a with
    | exact => rfl
    | inexact o => cases o <;> rfl
  show (ExtendedMantissa.ofMantissaAndAccuracy m a >>> (target m e - e).toNat).mantissa = _
  rw [mantissa_shiftRight, hmantissa]

theorem exponent_shiftToTargetExponent (m : Nat) (e : Int) (a : Accuracy) :
    (shiftToTargetExponent Format.binary64 m e a).2 = max e (target m e) := by
  show e + ((target m e - e).toNat : Int) = _
  omega

theorem log2_le_of_le {m k : Nat} (h : m ≤ 2 ^ k) : m.log2 ≤ k := by
  rcases Nat.eq_zero_or_pos m with rfl | hpos
  · exact Nat.zero_le k
  · have hlt : m < 2 ^ (k + 1) := by
      rw [Nat.pow_succ]
      have := Nat.two_pow_pos k
      omega
    exact Nat.le_of_lt_succ ((Nat.log2_lt (by omega)).2 hlt)

theorem div_two_pow_lt {m k n : Nat} (h : m < 2 ^ k) : m / 2 ^ n < 2 ^ (k - n) := by
  rcases Nat.le_total n k with hle | hle
  · apply Nat.div_lt_of_lt_mul
    rwa [← Nat.pow_add, Nat.add_sub_cancel' hle]
  · have hpow : 2 ^ k ≤ 2 ^ n := Nat.pow_le_pow_right (by decide) hle
    rw [Nat.div_eq_of_lt (by omega), Nat.sub_eq_zero_of_le hle]
    decide

theorem target_le {m k : Nat} {e : Int} (hm : m < 2 ^ k) (hk : k + e ≤ 1023) (he : e ≤ 970) :
    target m e ≤ 970 := by
  have hlog : (m.log2 : Int) + 1 + e ≤ 1023 := by
    rcases Nat.eq_zero_or_pos m with rfl | hpos
    · rw [Nat.log2_zero]
      omega
    · have := (Nat.log2_lt (by omega)).2 hm
      omega
  rw [target_eq]
  omega

/-- The mantissa is shifted before it is rounded. -/
def firstShift (m : Nat) (e : Int) (a : Accuracy) : ExtendedMantissa × Int :=
  shiftToTargetExponent Format.binary64 m e a

/-- And once more afterwards. -/
def lastShift (m : Nat) (e : Int) (a : Accuracy) : ExtendedMantissa × Int :=
  shiftToTargetExponent Format.binary64 (firstShift m e a).1.roundedMantissa (firstShift m e a).2
    .exact

theorem roundWithAccuracy_eq (s : Sign) (m : Nat) (e : Int) (a : Accuracy) :
    roundWithAccuracy Format.binary64 s m e a =
      if h : (lastShift m e a).1.mantissa = 0 then .zero s
      else .finite s (lastShift m e a).1.mantissa (lastShift m e a).2 (Nat.pos_of_ne_zero h) := rfl

/-- Of a number below `2 ^ 1023` the mantissa can take one more bit when it is rounded, and this
at most moves the exponent by one. -/
theorem exponent_lastShift_le {m k : Nat} {e : Int} (hm : m < 2 ^ k) (hk : k + e ≤ 1023)
    (he : e ≤ 970) (a : Accuracy) : (lastShift m e a).2 ≤ 971 := by
  have htarget := target_le hm hk he
  have hexponent : (firstShift m e a).2 = max e (target m e) :=
    exponent_shiftToTargetExponent m e a
  have hmantissa : (firstShift m e a).1.mantissa = m / 2 ^ (target m e - e).toNat :=
    mantissa_shiftToTargetExponent m e a
  have hrounded : (firstShift m e a).1.roundedMantissa ≤ 2 ^ (k - (target m e - e).toNat) := by
    have hle := roundedMantissa_le (firstShift m e a).1
    have hlt := div_two_pow_lt (n := (target m e - e).toNat) hm
    omega
  have hlog := log2_le_of_le hrounded
  have hfinal : (lastShift m e a).2 = max (firstShift m e a).2
      (target (firstShift m e a).1.roundedMantissa (firstShift m e a).2) :=
    exponent_shiftToTargetExponent _ _ _
  rw [hfinal, target_eq, hexponent]
  omega

theorem fits_roundWithAccuracy {m k : Nat} {e : Int} (hm : m < 2 ^ k) (hk : k + e ≤ 1023)
    (he : e ≤ 970) (s : Sign) (a : Accuracy) :
    Fits (roundWithAccuracy Format.binary64 s m e a) := by
  rw [roundWithAccuracy_eq]
  by_cases hzero : (lastShift m e a).1.mantissa = 0
  · rw [dif_pos hzero]
    trivial
  · rw [dif_neg hzero]
    exact exponent_lastShift_le hm hk he a

/-! ## Operations -/

section

variable {x y : Float}

/-- A finite double is a zero or has parts within their bounds. -/
theorem parts_of_isFinite (h : x.isFinite = true) :
    (∃ s, x.toModel.unpack = .zero s) ∨
      ∃ s m e hm, x.toModel.unpack = .finite s m e hm ∧ m < 2 ^ 53 ∧ e ≤ 971 := by
  have hfinite : x.toModel.unpack.isFinite = true := h
  cases hx : x.toModel.unpack with
  | infinity s =>
    rw [hx] at hfinite
    cases hfinite
  | notANumber =>
    rw [hx] at hfinite
    cases hfinite
  | zero s => exact .inl ⟨s, rfl⟩
  | finite s m e hm => exact .inr ⟨s, m, e, hm, rfl, bounds_of_unpack hx⟩

theorem isFinite_neg (h : x.isFinite = true) : (-x).isFinite = true := by
  show (Float.ofModel (.pack x.toModel.unpack.neg)).isFinite = true
  apply isFinite_pack
  obtain ⟨s, hx⟩ | ⟨s, m, e, hm, hx, -, he⟩ := parts_of_isFinite h
  · rw [hx]
    trivial
  · rw [hx]
    exact he

/-- An integer of 64 bits is rounded to a finite double. -/
theorem isFinite_toFloat (n : UInt64) : n.toFloat.isFinite = true := by
  show (Float.ofModel
    (.pack (UnpackedFloat.normalize Format.binary64 n.toNat 0 .positive))).isFinite = true
  apply isFinite_pack
  unfold UnpackedFloat.normalize
  split
  · rename_i hneg
    have := Int.compare_eq_lt.1 hneg
    omega
  · trivial
  · let shift := (0 - target n.toNat 0).toNat
    show Fits (roundWithAccuracy Format.binary64 .positive (n.toNat <<< shift) (0 - shift) .exact)
    have hlt : n.toNat <<< shift < 2 ^ (64 + shift) := by
      rw [Nat.shiftLeft_eq, Nat.pow_add]
      exact Nat.mul_lt_mul_of_pos_right n.toNat_lt (Nat.two_pow_pos shift)
    exact fits_roundWithAccuracy hlt (by omega) (by omega) _ _

/-- Whether the parts of a double show that its magnitude is at least eight. -/
def isLarge (x : Float) : Bool :=
  match x.toModel.unpack with
  | .finite _ m e _ => 2 ^ 52 ≤ m && -49 ≤ e
  | _ => false

theorem parts_of_isLarge (h : isLarge x = true) :
    ∃ s m e hm, x.toModel.unpack = .finite s m e hm ∧ 2 ^ 52 ≤ m ∧ -49 ≤ e := by
  cases hx : x.toModel.unpack with
  | finite s m e hm =>
    rw [isLarge, hx, Bool.and_eq_true, decide_eq_true_eq, decide_eq_true_eq] at h
    exact ⟨s, m, e, hm, rfl, h⟩
  | infinity _ | notANumber | zero _ =>
    rw [isLarge, hx] at h
    cases h

theorem isFinite_of_isLarge (h : isLarge x = true) : x.isFinite = true := by
  obtain ⟨s, m, e, hm, hx, -⟩ := parts_of_isLarge h
  show x.toModel.unpack.isFinite = true
  rw [hx]
  rfl

/-- The quotient of mantissas, as it is rounded, is below `2 ^ 1023`. -/
theorem fits_div {s t : Sign} {m n : Nat} {e f : Int} {hm : 0 < m} {hn : 0 < n}
    (hmlt : m < 2 ^ 53) (he : e ≤ 971) (hnle : 2 ^ 52 ≤ n) (hf : -49 ≤ f) :
    Fits (div Format.binary64 (.finite s m e hm) (.finite t n f hn)) := by
  let low := min (e - f)
    (Format.binary64.targetExponent (totalExponent m e - totalExponent n f))
  let shift := (e - f - low).toNat
  have hdiv : m <<< shift / n < 2 ^ (shift + 1) := by
    rw [Nat.div_lt_iff_lt_mul hn, Nat.shiftLeft_eq]
    calc m * 2 ^ shift < 2 ^ 53 * 2 ^ shift :=
          Nat.mul_lt_mul_of_pos_right hmlt (Nat.two_pow_pos shift)
      _ = 2 ^ (shift + 1) * 2 ^ 52 := by
          rw [← Nat.pow_add, ← Nat.pow_add]
          congr 1
          omega
      _ ≤ 2 ^ (shift + 1) * n := Nat.mul_le_mul_left _ hnle
  have hlow : low ≤ 970 := by
    have htotal : (Format.binary64.targetExponent (totalExponent m e - totalExponent n f)) =
        max ((m.log2 + 1 + e) - (n.log2 + 1 + f) - 53) (-1074) := rfl
    have hmlog := (Nat.log2_lt (by omega)).2 hmlt
    have hnlog := (Nat.le_log2 (by omega)).2 hnle
    omega
  show Fits (roundWithAccuracy Format.binary64 (s / t) (m <<< shift / n) low
    (accuracyOfFraction (m <<< shift % n) n))
  exact fits_roundWithAccuracy hdiv (by omega) hlow _ _

theorem isFinite_div (hx : x.isFinite = true) (hy : isLarge y = true) :
    (x / y).isFinite = true := by
  show (Float.ofModel (.pack (div Format.binary64 x.toModel.unpack y.toModel.unpack))).isFinite
    = true
  apply isFinite_pack
  obtain ⟨t, n, f, hn, hy, hnle, hf⟩ := parts_of_isLarge hy
  obtain ⟨s, hx⟩ | ⟨s, m, e, hm, hx, hmlt, he⟩ := parts_of_isFinite hx
  · rw [hx, hy]
    trivial
  · rw [hx, hy]
    exact fits_div hmlt he hnle hf

theorem isInf_packedInfinity (s : Sign) :
    (unpack Format.binary64 (packedInfinity Format.binary64 s)).isInf = true := by
  cases s <;> decide +kernel

/-- A number that is packed as a double is finite or infinite. -/
theorem isFinite_or_isInf_pack {u : UnpackedFloat} (h : u.isNaN = false) :
    (Float.ofModel (.pack u)).isFinite = true ∨ (Float.ofModel (.pack u)).isInf = true := by
  cases u with
  | notANumber => cases h
  | infinity s => exact .inr (isInf_packedInfinity s)
  | zero s => exact .inl (isFinite_pack trivial)
  | finite s m e hm =>
    by_cases hfits : e ≤ 971
    · exact .inl (isFinite_pack hfits)
    · have hbias : 2 ^ 11 ≤ biased e + 1 := by
        rw [biased]
        omega
      refine .inr ?_
      show (unpack Format.binary64 (pack Format.binary64 (.finite s m e hm))).isInf = true
      rw [pack_finite, if_pos hbias]
      exact isInf_packedInfinity s

theorem isNaN_roundWithAccuracy (s : Sign) (m : Nat) (e : Int) (a : Accuracy) :
    (roundWithAccuracy Format.binary64 s m e a).isNaN = false := by
  rw [roundWithAccuracy_eq]
  by_cases hzero : (lastShift m e a).1.mantissa = 0
  · rw [dif_pos hzero]
    rfl
  · rw [dif_neg hzero]
    rfl

/-- The product of finite doubles is finite unless it is infinite. -/
theorem isFinite_mul (hx : x.isFinite = true) (hy : y.isFinite = true)
    (hinf : (x * y).isInf = false) : (x * y).isFinite = true := by
  have hnumber : (mul Format.binary64 x.toModel.unpack y.toModel.unpack).isNaN = false := by
    obtain ⟨s, hx⟩ | ⟨s, m, e, hm, hx, -⟩ := parts_of_isFinite hx <;>
      obtain ⟨t, hy⟩ | ⟨t, n, f, hn, hy, -⟩ := parts_of_isFinite hy <;> rw [hx, hy]
    · rfl
    · rfl
    · rfl
    · exact isNaN_roundWithAccuracy _ _ _ _
  refine (isFinite_or_isInf_pack hnumber).resolve_right fun h => ?_
  rw [show (x * y).isInf = true from h] at hinf
  cases hinf

end

end Coordination.Decimal
