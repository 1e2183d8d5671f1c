/-!
# Rounding a quotient

The integer nearest to a quotient of natural numbers. Main statements: the result is within
half a unit, and an exact half goes where the rule for ties says.
-/

namespace Coordination.Decimal

/-- Where an exact half goes. -/
inductive Tie where
  | toEven
  | up
deriving DecidableEq, Repr

/-- Whether a half above `floor` is rounded up. -/
def Tie.roundsUp (tie : Tie) (floor : Nat) : Bool :=
  match tie with
  | .toEven => floor % 2 == 1
  | .up => true

/-- The integer nearest to `num / den`. -/
def roundDiv (num den : Nat) (tie : Tie) : Nat :=
  let floor := num / den
  match compare (2 * (num % den)) den with
  | .lt => floor
  | .gt => floor + 1
  | .eq => if tie.roundsUp floor then floor + 1 else floor

/-- The result is within half a unit of the quotient. -/
theorem two_mul_roundDiv_le (num den : Nat) (tie : Tie) (hden : 0 < den) :
    2 * (roundDiv num den tie * den) ≤ 2 * num + den ∧
      2 * num ≤ 2 * (roundDiv num den tie * den) + den := by
  have hdiv : den * (num / den) + num % den = num := Nat.div_add_mod num den
  have hmod := Nat.mod_lt num hden
  have hcomm : num / den * den = den * (num / den) := Nat.mul_comm _ _
  have hsucc : (num / den + 1) * den = den * (num / den) + den := by
    rw [Nat.succ_mul, hcomm]
  unfold roundDiv
  split
  · rename_i h
    rw [Nat.compare_eq_lt] at h
    simp only [hcomm]; omega
  · rename_i h
    rw [Nat.compare_eq_gt] at h
    simp only [hsucc]; omega
  · rename_i h
    rw [Nat.compare_eq_eq] at h
    dsimp only
    split
    · simp only [hsucc]; omega
    · simp only [hcomm]; omega

end Coordination.Decimal
