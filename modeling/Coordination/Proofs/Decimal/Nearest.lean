import Coordination.Proofs.Decimal.Interval

/-!
# The double nearest to a fraction

The magnitudes of doubles in their order are numbered by the bits below the sign
(`Magnitude.index`). Rounding a fraction to the nearest of them, an exact half to the even one,
gives a double from every number in the double's interval (`nearestIndex_of_contains`).
-/

namespace Coordination.Decimal

/-! ## Rounding -/

/-- A quotient is rounded to an integer from which it is half a unit away at most, and less than
that if the integer is odd. -/
theorem roundDiv_toEven_eq {num den m : ℕ} (hlow : 2 * (den * m) ≤ 2 * num + den)
    (hhigh : 2 * num ≤ 2 * (den * m) + den)
    (hodd : m % 2 = 1 → 2 * (den * m) < 2 * num + den ∧ 2 * num < 2 * (den * m) + den)
    (hden : 0 < den) : roundDiv num den .toEven = m := by
  have hdiv : den * (num / den) + num % den = num := Nat.div_add_mod num den
  have hmod := Nat.mod_lt num hden
  generalize hfloor : num / den = floor at hdiv
  have hle : floor ≤ m := by
    by_contra hlt
    have := Nat.mul_le_mul_left den (Nat.lt_of_not_le hlt)
    rw [Nat.mul_succ] at this
    omega
  have hge : m ≤ floor + 1 := by
    by_contra hlt
    have := Nat.mul_le_mul_left den (Nat.lt_of_not_le hlt)
    rw [Nat.mul_succ, Nat.mul_succ] at this
    omega
  have hm : m = floor ∨ m = floor + 1 := by omega
  unfold roundDiv
  dsimp only
  rw [hfloor]
  obtain rfl | rfl := hm
  · split
    · rfl
    · rename_i hgt
      rw [Nat.compare_eq_gt] at hgt
      omega
    · rename_i heq
      rw [Nat.compare_eq_eq] at heq
      rw [if_neg]
      intro hup
      have := hodd (beq_iff_eq.1 hup)
      omega
  · rw [Nat.mul_succ] at hlow hhigh hodd
    split
    · rename_i hlt
      rw [Nat.compare_eq_lt] at hlt
      omega
    · rfl
    · rename_i heq
      rw [Nat.compare_eq_eq] at heq
      rw [if_pos]
      apply beq_iff_eq.2
      by_contra heven
      have := hodd (by omega)
      omega

/-- The number of the magnitude nearest to a fraction, or of infinity. The fraction is counted in
the least unit. A quotient of more than 53 bits is rounded to 53. -/
def nearestIndex (num den : ℕ) : ℕ :=
  let scaled := num * twoTo 1074
  let step := (scaled / den).log2 - 52
  min (step * twoTo 52 + roundDiv scaled (den * twoTo step) .toEven) (0x7FF * twoTo 52)

/-- The number of a magnitude in the order of all of them. -/
def Magnitude.index (v : Magnitude) : ℕ := (v.exponent + 1074).toNat * twoTo 52 + v.mantissa

/-- What is left of a quotient's bits beyond the first 53. -/
theorem step_eq {num den step : ℕ} (hden : 0 < den)
    (hlow : step = 0 ∨ twoTo 52 * (den * twoTo step) ≤ num)
    (hhigh : num < twoTo 53 * (den * twoTo step)) : (num / den).log2 - 52 = step := by
  have hlt : num / den < 2 ^ (step + 52 + 1) := by
    rw [Nat.div_lt_iff_lt_mul hden]
    calc num < twoTo 53 * (den * twoTo step) := hhigh
      _ = 2 ^ (step + 52 + 1) * den := by rw [twoTo_eq, twoTo_eq]; ring
  rcases Nat.eq_zero_or_pos step with rfl | hpos
  · rcases Nat.eq_zero_or_pos (num / den) with hzero | hquot
    · rw [hzero]
      rfl
    · have := (Nat.log2_lt (by omega)).2 hlt
      omega
  · have hge : 2 ^ (step + 52) ≤ num / den := by
      rw [Nat.le_div_iff_mul_le hden]
      calc 2 ^ (step + 52) * den = twoTo 52 * (den * twoTo step) := by
            rw [twoTo_eq, twoTo_eq]; ring
        _ ≤ num := hlow.resolve_left (by omega)
    have hne : num / den ≠ 0 := by
      have := Nat.two_pow_pos (step + 52)
      omega
    rw [(Nat.log2_eq_iff hne).2 ⟨hge, hlt⟩]
    omega

theorem nearestIndex_eq {num den step m : ℕ}
    (hstep : (num * twoTo 1074 / den).log2 - 52 = step)
    (hround : roundDiv (num * twoTo 1074) (den * twoTo step) .toEven = m)
    (hmax : step * twoTo 52 + m ≤ 0x7FF * twoTo 52) :
    nearestIndex num den = step * twoTo 52 + m := by
  unfold nearestIndex
  dsimp only
  rw [hstep, hround]
  exact Nat.min_eq_left hmax

namespace Magnitude

variable {v : Magnitude}

/-- Membership in the interval, with a fraction that is counted in quarters of the least unit. -/
theorem bounds_of_contains (hv : v.Canonical) {num den : ℕ} (hden : 0 < den)
    (h : v.Contains (num / den)) :
    let unit := den * twoTo (v.exponent + 1074).toNat
    let scaled := num * twoTo 1074
    (4 * (unit * v.mantissa) ≤ 4 * scaled + v.reach * unit ∧
        4 * scaled ≤ 4 * (unit * v.mantissa) + 2 * unit) ∧
      (v.mantissa % 2 = 1 → 4 * (unit * v.mantissa) < 4 * scaled + v.reach * unit ∧
        4 * scaled < 4 * (unit * v.mantissa) + 2 * unit) := by
  intro unit scaled
  have hden' : (0 : ℚ) < den := by exact_mod_cast hden
  have hscale : (0 : ℚ) < den * (4 * twoTo 1074) :=
    mul_pos hden' (mul_pos (by norm_num) (Nat.cast_pos.2 (twoTo_pos 1074)))
  have hunit : v.quarter * (den * (4 * twoTo 1074)) = unit := by
    have hexponent : ((v.exponent + 1074).toNat : ℤ) = v.exponent - 2 + 2 + (1074 : ℕ) := by
      have := hv.le_exponent
      omega
    have hpow : ((twoTo (v.exponent + 1074).toNat : ℕ) : ℚ) = v.quarter * 4 * twoTo 1074 := by
      rw [twoTo_eq, twoTo_eq, Nat.cast_pow, Nat.cast_pow, Nat.cast_ofNat, ← zpow_natCast,
        hexponent, zpow_add₀ (by norm_num), zpow_add₀ (by norm_num), zpow_natCast]
      norm_num only [quarter, zpow_ofNat]
    simp only [unit, Nat.cast_mul, hpow]
    ring
  have hscaled : (num / den : ℚ) * (den * (4 * twoTo 1074)) = 4 * scaled := by
    simp only [scaled, Nat.cast_mul]
    rw [← mul_assoc, div_mul_cancel₀ _ hden'.ne']
    ring
  have hlow : (4 * v.mantissa - v.reach) * v.quarter * (den * (4 * twoTo 1074)) =
      4 * (unit * v.mantissa) - v.reach * unit := by
    rw [mul_assoc, hunit]
    ring
  have hhigh : (4 * v.mantissa + 2) * v.quarter * (den * (4 * twoTo 1074)) =
      4 * (unit * v.mantissa) + 2 * unit := by
    rw [mul_assoc, hunit]
    ring
  unfold Contains at h
  split at h
  · have hle := mul_le_mul_of_nonneg_right h.1 hscale.le
    have hge := mul_le_mul_of_nonneg_right h.2 hscale.le
    rw [hlow, hscaled, sub_le_iff_le_add] at hle
    rw [hscaled, hhigh] at hge
    exact ⟨⟨by exact_mod_cast hle, by exact_mod_cast hge⟩, fun hodd => absurd hodd (by omega)⟩
  · have hlt := mul_lt_mul_of_pos_right h.1 hscale
    have hgt := mul_lt_mul_of_pos_right h.2 hscale
    rw [hlow, hscaled, sub_lt_iff_lt_add] at hlt
    rw [hscaled, hhigh] at hgt
    exact ⟨⟨by exact_mod_cast hlt.le, by exact_mod_cast hgt.le⟩,
      fun _ => ⟨by exact_mod_cast hlt, by exact_mod_cast hgt⟩⟩

/-- A fraction of the double's own binade, or one in the least unit, is rounded to the double's
mantissa. -/
theorem nearestIndex_of_binade (hv : v.Canonical) {num den : ℕ} (hden : 0 < den)
    (h : v.Contains (num / den))
    (hbinade : (v.exponent + 1074).toNat = 0 ∨
      twoTo 52 * (den * twoTo (v.exponent + 1074).toNat) ≤ num * twoTo 1074) :
    nearestIndex num den = v.index := by
  obtain ⟨⟨hlow, hhigh⟩, hodd⟩ := bounds_of_contains hv hden h
  have hunit : 0 < den * twoTo (v.exponent + 1074).toNat := Nat.mul_pos hden (twoTo_pos _)
  have hreach := Nat.mul_le_mul_right (den * twoTo (v.exponent + 1074).toNat) v.reach_le
  have hmantissa := hv.mantissa_lt
  have hexponent := hv.exponent_le
  have hmul : den * twoTo (v.exponent + 1074).toNat * v.mantissa ≤
      den * twoTo (v.exponent + 1074).toNat * (2 ^ 53 - 1) :=
    Nat.mul_le_mul_left _ (by omega)
  have h53 : twoTo 53 = 2 ^ 53 := rfl
  have h52 : twoTo 52 = 2 ^ 52 := rfl
  apply nearestIndex_eq
  · apply step_eq hden hbinade
    rw [h53]
    omega
  · exact roundDiv_toEven_eq (by omega) (by omega) (fun h => by have := hodd h; omega) hunit
  · rw [h52]
    omega

/-- A fraction of the binade below is rounded there, up to the power of two that is the
double. -/
theorem nearestIndex_of_binade_below (hv : v.Canonical) {num den : ℕ} (hden : 0 < den)
    (h : v.Contains (num / den)) {step : ℕ} (hstep : (v.exponent + 1074).toNat = step + 1)
    (hbelow : num * twoTo 1074 < twoTo 52 * (den * twoTo (step + 1))) :
    nearestIndex num den = v.index := by
  have hnormal : 2 ^ 52 ≤ v.mantissa := hv.normal.resolve_left (by omega)
  obtain ⟨⟨hlow, -⟩, -⟩ := bounds_of_contains hv hden h
  rw [hstep] at hlow
  have hunit : 0 < den * twoTo step := Nat.mul_pos hden (twoTo_pos _)
  have hdouble : den * twoTo (step + 1) = 2 * (den * twoTo step) := by
    rw [twoTo_succ]
    ring
  rw [hdouble] at hlow hbelow
  have h52 : twoTo 52 = 2 ^ 52 := rfl
  have h53 : twoTo 53 = 2 ^ 53 := rfl
  rw [h52] at hbelow
  have hmantissa : v.mantissa = 2 ^ 52 := by
    by_contra hne
    have hreach := Nat.mul_le_mul_right (2 * (den * twoTo step)) v.reach_le
    have := Nat.mul_le_mul_left (2 * (den * twoTo step)) (show 2 ^ 52 + 1 ≤ v.mantissa by omega)
    omega
  have hreach : v.reach = 1 := by
    unfold reach isBoundary
    rw [if_pos]
    have hne : v.exponent ≠ -1074 := by omega
    simp [hmantissa, h52, hne]
  have hexponent := hv.exponent_le
  rw [hmantissa, hreach] at hlow
  have hnearest : nearestIndex num den = step * twoTo 52 + 2 ^ 53 := by
    apply nearestIndex_eq
    · apply step_eq hden (.inr (by rw [h52]; omega))
      rw [h53]
      omega
    · exact roundDiv_toEven_eq (by omega) (by omega) (fun h => by omega) hunit
    · rw [h52]
      omega
  rw [hnearest, index, hstep, hmantissa, h52]
  omega

/-- Every number in a double's interval is rounded to the double. -/
theorem nearestIndex_of_contains (hv : v.Canonical) {num den : ℕ} (hden : 0 < den)
    (h : v.Contains (num / den)) : nearestIndex num den = v.index := by
  by_cases hbinade : twoTo 52 * (den * twoTo (v.exponent + 1074).toNat) ≤ num * twoTo 1074
  · exact nearestIndex_of_binade hv hden h (.inr hbinade)
  rcases Nat.eq_zero_or_pos (v.exponent + 1074).toNat with hleast | hpos
  · exact nearestIndex_of_binade hv hden h (.inl hleast)
  · have hstep : (v.exponent + 1074).toNat = (v.exponent + 1074).toNat - 1 + 1 := by omega
    rw [hstep] at hbinade
    exact nearestIndex_of_binade_below hv hden h hstep (Nat.lt_of_not_le hbinade)

end Magnitude

end Coordination.Decimal
