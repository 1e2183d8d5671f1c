import Mathlib.Algebra.Order.Field.Power
import Mathlib.Data.Nat.Cast.Order.Field
import Mathlib.Data.Nat.Digits.Defs
import Mathlib.Tactic.FieldSimp
import Mathlib.Tactic.Linarith
import Mathlib.Tactic.NormNum
import Coordination.Decimal.Shortest

/-!
# The reals that round to a double

The reals that round to a double are an interval around it (`Magnitude.Contains`), and the
comparisons of the search for digits decide membership exactly (`roundsFrom_iff`). On the decimal
grid whose points are seventeen digits long the point nearest to the double lies in the interval
(`gridPoint?_isSome`). So the search ends there at the latest, and what it finds lies in the
interval (`contains_shortest`).
-/

namespace Coordination.Decimal

theorem twoTo_eq (n : ℕ) : twoTo n = 2 ^ n := rfl

theorem tenTo_eq (n : ℕ) : tenTo n = 10 ^ n := rfl

theorem twoTo_mono {m n : ℕ} (h : m ≤ n) : twoTo m ≤ twoTo n :=
  Nat.pow_le_pow_right (by decide) h

theorem pow_toNat {b : ℚ} (hb : b ≠ 0) (n : ℤ) : b ^ n.toNat = b ^ n * b ^ (-n).toNat := by
  rw [← zpow_natCast, ← zpow_natCast, ← zpow_add₀ hb]
  congr 1
  omega

/-! ## Values -/

namespace Digits

/-- The number that the digits stand for. -/
def value (d : Digits) : ℚ := d.digits * 10 ^ d.exponent

theorem value_stripZeros (fuel : ℕ) (d : Digits) : (d.stripZeros fuel).value = d.value := by
  induction fuel generalizing d with
  | zero => rfl
  | succ fuel ih =>
    unfold stripZeros
    split
    · rename_i h
      rw [ih]
      have hdigits : d.digits = 10 * (d.digits / 10) := by omega
      have hcast : (d.digits : ℚ) = 10 * (d.digits / 10 : ℕ) := by exact_mod_cast hdigits
      unfold value
      rw [hcast, zpow_add_one₀ (by norm_num)]
      ring
    · rfl

end Digits

namespace Magnitude

variable {v : Magnitude}

def value (v : Magnitude) : ℚ := v.mantissa * 2 ^ v.exponent

/-- A quarter of the mantissa's unit. -/
def quarter (v : Magnitude) : ℚ := 2 ^ (v.exponent - 2)

theorem quarter_pos (v : Magnitude) : 0 < v.quarter := zpow_pos (by norm_num) _

theorem value_eq (v : Magnitude) : v.value = 4 * v.mantissa * v.quarter := by
  unfold value quarter
  rw [zpow_sub₀ (by norm_num)]
  norm_num
  ring

/-- The parts that a finite double has: 53 bits, of which the first is set unless the exponent is
the least one. -/
structure Canonical (v : Magnitude) : Prop where
  mantissa_lt : v.mantissa < 2 ^ 53
  le_exponent : -1074 ≤ v.exponent
  exponent_le : v.exponent ≤ 971
  normal : v.exponent = -1074 ∨ 2 ^ 52 ≤ v.mantissa

/-- How many quarters the interval reaches below the double. It always reaches two above. -/
def reach (v : Magnitude) : ℕ := if v.isBoundary then 1 else 2

theorem reach_pos (v : Magnitude) : 0 < v.reach := by
  unfold reach
  split <;> decide

theorem reach_le (v : Magnitude) : v.reach ≤ 2 := by
  unfold reach
  split <;> decide

/-- The number rounds to the double. An end of the interval is an exact half, which goes to the
even mantissa. -/
def Contains (v : Magnitude) (x : ℚ) : Prop :=
  if v.mantissa % 2 = 0 then
    (4 * v.mantissa - v.reach) * v.quarter ≤ x ∧ x ≤ (4 * v.mantissa + 2) * v.quarter
  else (4 * v.mantissa - v.reach) * v.quarter < x ∧ x < (4 * v.mantissa + 2) * v.quarter

theorem contains_of_lt {x : ℚ} (hlow : (4 * v.mantissa - v.reach) * v.quarter < x)
    (hhigh : x < (4 * v.mantissa + 2) * v.quarter) : v.Contains x := by
  unfold Contains
  split
  · exact ⟨hlow.le, hhigh.le⟩
  · exact ⟨hlow, hhigh⟩

/-- What is nearer to the double than the interval reaches down lies in it. -/
theorem contains_of_near {x d : ℚ} (hd : d < v.reach * v.quarter) (hlow : v.value - d ≤ x)
    (hhigh : x ≤ v.value + d) : v.Contains x := by
  rw [value_eq] at hlow hhigh
  have hreach : (v.reach : ℚ) * v.quarter ≤ 2 * v.quarter :=
    mul_le_mul_of_nonneg_right (by exact_mod_cast v.reach_le) v.quarter_pos.le
  apply contains_of_lt <;> linarith

/-! ## Comparisons on a grid -/

/-- The pair scales quarters and points of the grid alike. -/
theorem gridScale_eq (v : Magnitude) (k : ℤ) : ∃ s : ℚ, 0 < s ∧
    ((v.gridScale k).1 : ℚ) = v.quarter * s ∧ ((v.gridScale k).2 : ℚ) = 10 ^ k * s := by
  refine ⟨2 ^ (-(v.exponent - 2)).toNat * 10 ^ (-k).toNat, by positivity, ?_, ?_⟩
  · show ((twoTo (v.exponent - 2).toNat * tenTo (-k).toNat : ℕ) : ℚ) = _
    rw [twoTo_eq, tenTo_eq, quarter]
    push_cast
    rw [pow_toNat (by norm_num) (v.exponent - 2)]
    ring
  · show ((twoTo (-(v.exponent - 2)).toNat * tenTo k.toNat : ℕ) : ℚ) = _
    rw [twoTo_eq, tenTo_eq]
    push_cast
    rw [pow_toNat (by norm_num) k]
    ring

theorem roundsFrom_iff (hm : v.mantissa ≠ 0) (k : ℤ) (point : ℕ) :
    v.roundsFrom k point = true ↔ v.Contains (point * 10 ^ k) := by
  obtain ⟨s, hs, ha, hb⟩ := v.gridScale_eq k
  let low := (4 * v.mantissa - v.reach) * (v.gridScale k).1
  let high := (4 * v.mantissa + 2) * (v.gridScale k).1
  let x := point * (v.gridScale k).2
  have hlow : (low : ℚ) = (4 * v.mantissa - v.reach) * v.quarter * s := by
    have hle : v.reach ≤ 4 * v.mantissa := v.reach_le.trans (by omega)
    simp only [low, Nat.cast_mul, Nat.cast_sub hle, ha]
    push_cast
    ring
  have hhigh : (high : ℚ) = (4 * v.mantissa + 2) * v.quarter * s := by
    simp only [high, Nat.cast_mul, ha]
    push_cast
    ring
  have hx : (x : ℚ) = point * 10 ^ k * s := by
    simp only [x, Nat.cast_mul, hb]
    ring
  have hdef : v.roundsFrom k point =
      if v.mantissa % 2 = 0 then decide (low ≤ x) && decide (x ≤ high)
      else decide (low < x) && decide (x < high) := rfl
  rw [hdef, Contains]
  split <;> rw [Bool.and_eq_true, decide_eq_true_eq, decide_eq_true_eq]
  · rw [← Nat.cast_le (α := ℚ), ← Nat.cast_le (α := ℚ), hlow, hhigh, hx,
      mul_le_mul_iff_left₀ hs, mul_le_mul_iff_left₀ hs]
  · rw [← Nat.cast_lt (α := ℚ), ← Nat.cast_lt (α := ℚ), hlow, hhigh, hx,
      mul_lt_mul_iff_left₀ hs, mul_lt_mul_iff_left₀ hs]

/-- The point of the grid that is tried first. -/
def nearestPoint (v : Magnitude) (tie : Tie) (k : ℤ) : ℕ :=
  roundDiv (4 * v.mantissa * (v.gridScale k).1) (v.gridScale k).2 tie

/-- It is no further from the double than half the distance of two points. -/
theorem nearestPoint_near (v : Magnitude) (tie : Tie) (k : ℤ) :
    v.value - 10 ^ k / 2 ≤ v.nearestPoint tie k * 10 ^ k ∧
      v.nearestPoint tie k * 10 ^ k ≤ v.value + 10 ^ k / 2 := by
  obtain ⟨s, hs, ha, hb⟩ := v.gridScale_eq k
  have hk : (0 : ℚ) < 10 ^ k := zpow_pos (by norm_num) k
  have hpos : 0 < (v.gridScale k).2 := by
    rw [← Nat.cast_pos (α := ℚ), hb]
    exact mul_pos hk hs
  obtain ⟨hle, hge⟩ := two_mul_roundDiv_le (4 * v.mantissa * (v.gridScale k).1) _ tie hpos
  have hle' : (2 * (v.nearestPoint tie k * 10 ^ k)) * s ≤ (2 * v.value + 10 ^ k) * s := by
    have := Nat.cast_le (α := ℚ).2 hle
    push_cast [ha, hb] at this
    rw [value_eq, nearestPoint]
    linarith
  have hge' : (2 * v.value) * s ≤ (2 * (v.nearestPoint tie k * 10 ^ k) + 10 ^ k) * s := by
    have := Nat.cast_le (α := ℚ).2 hge
    push_cast [ha, hb] at this
    rw [value_eq, nearestPoint]
    linarith
  have := le_of_mul_le_mul_right hle' hs
  have := le_of_mul_le_mul_right hge' hs
  constructor <;> linarith

theorem contains_of_gridPoint? (hm : v.mantissa ≠ 0) {tie : Tie} {k : ℤ} {point : ℕ}
    (h : v.gridPoint? tie k = some point) : v.Contains (point * 10 ^ k) := by
  let near := v.nearestPoint tie k
  let floor := 4 * v.mantissa * (v.gridScale k).1 / (v.gridScale k).2
  let far := if near = floor then floor + 1 else floor
  have hdef : v.gridPoint? tie k = if v.roundsFrom k near then some near
      else if v.roundsFrom k far then some far else none := rfl
  rw [← roundsFrom_iff hm]
  rw [hdef] at h
  split at h
  · rename_i hnear
    rwa [← Option.some.inj h]
  · split at h
    · rename_i hfar
      rwa [← Option.some.inj h]
    · cases h

/-- A grid that is fine enough has a point that rounds to the double. -/
theorem gridPoint?_isSome (hm : v.mantissa ≠ 0) (tie : Tie) {k : ℤ}
    (hk : 10 ^ k < 2 * (v.reach * v.quarter)) : (v.gridPoint? tie k).isSome = true := by
  have hnear := v.nearestPoint_near tie k
  have hrounds : v.roundsFrom k (v.nearestPoint tie k) = true :=
    (roundsFrom_iff hm k _).2 (contains_of_near (by linarith) hnear.1 hnear.2)
  unfold nearestPoint at hrounds
  unfold gridPoint?
  dsimp only
  rw [if_pos hrounds]
  rfl

/-! ## Seventeen digits -/

theorem le_of_length_toDigits {n : ℕ} (hn : 0 < n) :
    10 ^ ((Nat.toDigits 10 n).length - 1) ≤ n := by
  rcases Nat.lt_or_ge 1 (Nat.toDigits 10 n).length with hlong | hshort
  · by_contra hlt
    have := (Nat.length_toDigits_le_iff (by decide) (by omega)).2 (Nat.lt_of_not_le hlt)
    omega
  · rw [Nat.sub_eq_zero_of_le hshort]
    exact hn

/-- The double with 350 decimal places, without what is left. -/
def shifted (v : Magnitude) : ℕ :=
  v.mantissa * tenTo 350 * twoTo v.exponent.toNat / twoTo (-v.exponent).toNat

theorem shifted_le (v : Magnitude) : (v.shifted : ℚ) ≤ v.value * tenTo 350 := by
  have hpos : (0 : ℚ) < 2 ^ (-v.exponent).toNat := by positivity
  refine Nat.cast_div_le.trans ?_
  rw [twoTo_eq, twoTo_eq, value]
  push_cast
  rw [div_le_iff₀ hpos, pow_toNat (by norm_num) v.exponent]
  exact le_of_eq (by ring)

theorem shifted_pos (hv : v.Canonical) (hm : v.mantissa ≠ 0) : 0 < v.shifted := by
  have hexponent : (-v.exponent).toNat ≤ 1074 := by
    have := hv.le_exponent
    omega
  refine Nat.div_pos ?_ (twoTo_pos _)
  calc twoTo (-v.exponent).toNat ≤ twoTo 1074 := twoTo_mono hexponent
    _ ≤ tenTo 350 := by decide +kernel
    _ ≤ v.mantissa * tenTo 350 := Nat.le_mul_of_pos_left _ (Nat.pos_of_ne_zero hm)
    _ ≤ v.mantissa * tenTo 350 * twoTo v.exponent.toNat :=
        Nat.le_mul_of_pos_right _ (twoTo_pos _)

theorem pow_leadingExponent_le (hv : v.Canonical) (hm : v.mantissa ≠ 0) :
    10 ^ v.leadingExponent ≤ v.value := by
  have hlength : 0 < (Nat.toDigits 10 v.shifted).length :=
    List.length_pos_of_ne_nil Nat.toDigits_ne_nil
  have hdigits : (10 : ℚ) ^ ((Nat.toDigits 10 v.shifted).length - 1) ≤ v.value * tenTo 350 := by
    refine le_trans ?_ v.shifted_le
    exact_mod_cast le_of_length_toDigits (shifted_pos hv hm)
  have hlead : v.leadingExponent =
      (((Nat.toDigits 10 v.shifted).length - 1 : ℕ) : ℤ) - (350 : ℕ) := by
    show ((Nat.toDigits 10 v.shifted).length : ℤ) - 351 = _
    omega
  rw [tenTo_eq, Nat.cast_pow, Nat.cast_ofNat] at hdigits
  rw [hlead, zpow_sub₀ (by norm_num), zpow_natCast, zpow_natCast]
  exact (div_le_iff₀ (by positivity)).2 hdigits

/-- Sixteen digits after the first one are fine enough. Below a power of two the interval is
narrower, but there the mantissa is the least. -/
theorem pow_lt_reach (hv : v.Canonical) (hm : v.mantissa ≠ 0) :
    10 ^ (v.leadingExponent - 16) < 2 * (v.reach * v.quarter) := by
  have hlead := pow_leadingExponent_le hv hm
  rw [value_eq] at hlead
  have hmantissa : (4 * v.mantissa : ℚ) < 2 * v.reach * 10 ^ 16 := by
    have hlt := hv.mantissa_lt
    have hnat : 4 * v.mantissa < 2 * v.reach * 10 ^ 16 := by
      unfold reach
      split
      · rename_i hboundary
        rw [isBoundary, Bool.and_eq_true, beq_iff_eq] at hboundary
        rw [hboundary.1, twoTo_eq]
        norm_num
      · omega
    exact_mod_cast hnat
  rw [zpow_sub₀ (by norm_num), div_lt_iff₀ (by positivity)]
  calc (10 : ℚ) ^ v.leadingExponent ≤ 4 * v.mantissa * v.quarter := hlead
    _ < 2 * v.reach * 10 ^ 16 * v.quarter := mul_lt_mul_of_pos_right hmantissa v.quarter_pos
    _ = 2 * (v.reach * v.quarter) * 10 ^ (16 : ℤ) := by norm_num; ring

/-- The shortest digits round to the double. -/
theorem contains_shortest (hv : v.Canonical) (tie : Tie) :
    v.Contains (v.shortest tie).value := by
  unfold shortest
  split
  · rename_i hzero
    have hquarter := v.quarter_pos
    have hreach : (0 : ℚ) < v.reach := by exact_mod_cast v.reach_pos
    rw [show (Digits.mk 0 0).value = 0 by simp [Digits.value]]
    apply contains_of_lt <;> rw [hzero]
    · have := mul_pos hreach hquarter
      simp only [Nat.cast_zero, mul_zero, zero_sub]
      linarith
    · simp only [Nat.cast_zero, mul_zero, zero_add]
      linarith
  · rename_i hm
    dsimp only
    split
    · rename_i d hd
      obtain ⟨n, -, hn⟩ := List.exists_of_findSome?_eq_some hd
      obtain ⟨point, hpoint, rfl⟩ := Option.map_eq_some_iff.1 hn
      rw [Digits.value_stripZeros]
      exact contains_of_gridPoint? hm hpoint
    · rename_i hnone
      have hlast := List.findSome?_eq_none_iff.1 hnone 16 (by decide)
      have hsome := gridPoint?_isSome hm tie (pow_lt_reach hv hm)
      rw [Option.map_eq_none_iff] at hlast
      rw [show v.leadingExponent - ((16 : ℕ) : ℤ) = v.leadingExponent - 16 from rfl] at hlast
      rw [hlast] at hsome
      cases hsome

end Magnitude

end Coordination.Decimal
