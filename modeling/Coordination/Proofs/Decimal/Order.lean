import Mathlib.Data.Prod.Lex

/-!
# The order of doubles

A comparison with what is no number is false. All other doubles lie on a line, the infinities at
its ends and the two zeros at one place, and to compare doubles is to compare their places
(`compare_eq`). Hence comparisons may be chained, and of two numbers one is below the other or
they are at one place.
-/

namespace Coordination.Decimal

open Float.Model (UnpackedFloat)

/-- A place on the line: the distance class, then the exponent and the mantissa, all of them
negated below zero. -/
abbrev Place := ℤ ×ₗ ℤ ×ₗ ℤ

namespace Place

def of (side exponent mantissa : ℤ) : Place := toLex (side, toLex (exponent, mantissa))

/-- The place of a double that is a number. -/
def ofUnpacked? : UnpackedFloat → Option Place
  | .notANumber => none
  | .infinity .negative => some (of (-2) 0 0)
  | .finite .negative mantissa exponent _ => some (of (-1) (-exponent) (-mantissa))
  | .zero _ => some (of 0 0 0)
  | .finite .positive mantissa exponent _ => some (of 1 exponent mantissa)
  | .infinity .positive => some (of 2 0 0)

theorem compare_of (a e m a' e' m' : ℤ) : compare (of a e m) (of a' e' m') =
    (compare a a').then ((compare e e').then (compare m m')) := by
  simp [of, Prod.Lex.compare_def, compareLex, compareOn]

theorem compare_neg (a b : ℤ) : compare (-a) (-b) = (compare a b).swap := by
  rw [← Std.OrientedOrd.eq_swap]
  rcases lt_trichotomy b a with h | rfl | h
  · rw [Int.compare_eq_lt.2 h, Int.compare_eq_lt.2 (by omega)]
  · simp
  · rw [Int.compare_eq_gt.2 h, Int.compare_eq_gt.2 (by omega)]

theorem compare_natCast (a b : ℕ) : compare (a : ℤ) (b : ℤ) = compare a b := by
  rcases lt_trichotomy a b with h | rfl | h
  · rw [Int.compare_eq_lt.2 (by omega), Nat.compare_eq_lt.2 h]
  · simp
  · rw [Int.compare_eq_gt.2 (by omega), Nat.compare_eq_gt.2 h]

theorem compare_eq (x y : UnpackedFloat) : x.compare y =
    (ofUnpacked? x).bind fun p => (ofUnpacked? y).map fun q => compare p q := by
  cases x with
  | notANumber => rfl
  | infinity s =>
    cases y with
    | notANumber => cases s <;> rfl
    | infinity t => cases s <;> cases t <;> rfl
    | zero t => cases s <;> rfl
    | finite t m e h => cases s <;> cases t <;> rfl
  | zero s =>
    cases y with
    | notANumber => rfl
    | infinity t => cases t <;> rfl
    | zero t => rfl
    | finite t m e h => cases t <;> rfl
  | finite s m e h =>
    cases y with
    | notANumber => cases s <;> rfl
    | infinity t => cases s <;> cases t <;> rfl
    | zero t => cases s <;> rfl
    | finite t n f h' =>
      cases s with
      | negative =>
        cases t with
        | negative =>
          refine congrArg some (Eq.trans ?_ (compare_of ..).symm)
          rw [Std.ReflOrd.compare_self, Ordering.eq_then, compare_neg, compare_neg, compare_natCast,
            ← Ordering.swap_then]
        | positive => rfl
      | positive =>
        cases t with
        | negative => rfl
        | positive =>
          refine congrArg some (Eq.trans ?_ (compare_of ..).symm)
          rw [Std.ReflOrd.compare_self, Ordering.eq_then, compare_natCast]

end Place

/-- The place of a double that is a number. -/
def place? (x : Float) : Option Place := Place.ofUnpacked? x.toModel.unpack

section

variable {x y z : Float}

theorem isNaN_eq_false_iff : x.isNaN = false ↔ ∃ p, place? x = some p := by
  show x.toModel.unpack.isNaN = false ↔ ∃ p, Place.ofUnpacked? x.toModel.unpack = some p
  cases x.toModel.unpack with
  | notANumber => exact iff_of_false Bool.noConfusion fun ⟨_, h⟩ => nomatch h
  | infinity s => cases s <;> exact iff_of_true rfl ⟨_, rfl⟩
  | zero s => exact iff_of_true rfl ⟨_, rfl⟩
  | finite s m e h => cases s <;> exact iff_of_true rfl ⟨_, rfl⟩

theorem lt_iff : x < y ↔ ∃ p ∈ place? x, ∃ q ∈ place? y, p < q := by
  show decide (x.toModel.unpack.lt y.toModel.unpack = true) = true ↔ _
  simp only [place?, decide_eq_true_eq, UnpackedFloat.lt, Place.compare_eq, beq_iff_eq]
  cases Place.ofUnpacked? x.toModel.unpack <;> cases Place.ofUnpacked? y.toModel.unpack <;>
    simp [compare_lt_iff_lt]

theorem le_iff : x ≤ y ↔ ∃ p ∈ place? x, ∃ q ∈ place? y, p ≤ q := by
  show decide (x.toModel.unpack.le y.toModel.unpack = true) = true ↔ _
  simp only [place?, decide_eq_true_eq, UnpackedFloat.le, Place.compare_eq]
  cases Place.ofUnpacked? x.toModel.unpack <;> cases Place.ofUnpacked? y.toModel.unpack <;>
    simp [← Ordering.ne_gt_iff_isLE, compare_le_iff_le]

/-- Equality as numbers. -/
theorem beq_iff : (x == y) = true ↔ ∃ p ∈ place? x, ∃ q ∈ place? y, p = q := by
  show (x.toModel.unpack.compare y.toModel.unpack == some .eq) = true ↔ _
  simp only [place?, Place.compare_eq, beq_iff_eq]
  cases Place.ofUnpacked? x.toModel.unpack with
  | none => simp
  | some p =>
    cases Place.ofUnpacked? y.toModel.unpack with
    | none => simp
    | some q =>
      have hcompare : some (compare p q) = some .eq ↔ p = q :=
        (Option.some_inj).trans compare_eq_iff_eq
      refine hcompare.trans ⟨fun h => ⟨p, rfl, q, rfl, h⟩, ?_⟩
      rintro ⟨p', hp, q', hq, h⟩
      rw [Option.mem_some_iff.1 hp, Option.mem_some_iff.1 hq, h]

theorem not_lt_self : ¬ x < x := by
  intro h
  obtain ⟨p, hp, q, hq, hpq⟩ := lt_iff.1 h
  obtain rfl := Option.mem_unique hp hq
  exact absurd hpq (lt_irrefl p)

theorem le_of_lt (h : x < y) : x ≤ y := by
  obtain ⟨p, hp, q, hq, hpq⟩ := lt_iff.1 h
  exact le_iff.2 ⟨p, hp, q, hq, hpq.le⟩

theorem lt_of_le_of_lt (h : x ≤ y) (h' : y < z) : x < z := by
  obtain ⟨p, hp, q, hq, hpq⟩ := le_iff.1 h
  obtain ⟨q', hq', r, hr, hqr⟩ := lt_iff.1 h'
  obtain rfl := Option.mem_unique hq hq'
  exact lt_iff.2 ⟨p, hp, r, hr, hpq.trans_lt hqr⟩

theorem le_of_beq (h : (x == y) = true) : x ≤ y ∧ y ≤ x := by
  obtain ⟨p, hp, q, hq, hpq⟩ := beq_iff.1 h
  exact ⟨le_iff.2 ⟨p, hp, q, hq, hpq.le⟩, le_iff.2 ⟨q, hq, p, hp, hpq.ge⟩⟩

/-- Of two numbers one is below the other or they are at one place. -/
theorem lt_or_beq_or_gt (hx : x.isNaN = false) (hy : y.isNaN = false) :
    x < y ∨ (x == y) = true ∨ y < x := by
  obtain ⟨p, hp⟩ := isNaN_eq_false_iff.1 hx
  obtain ⟨q, hq⟩ := isNaN_eq_false_iff.1 hy
  rcases lt_trichotomy p q with h | h | h
  · exact .inl (lt_iff.2 ⟨p, hp, q, hq, h⟩)
  · exact .inr (.inl (beq_iff.2 ⟨p, hp, q, hq, h⟩))
  · exact .inr (.inr (lt_iff.2 ⟨q, hq, p, hp, h⟩))

/-- Only numbers are compared. -/
theorem not_isNaN_of_le (h : x ≤ y) : x.isNaN = false ∧ y.isNaN = false := by
  obtain ⟨p, hp, q, hq, -⟩ := le_iff.1 h
  exact ⟨isNaN_eq_false_iff.2 ⟨p, hp⟩, isNaN_eq_false_iff.2 ⟨q, hq⟩⟩

end

end Coordination.Decimal
