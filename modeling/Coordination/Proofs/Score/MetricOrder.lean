import Coordination.Score.Basic
import Coordination.Proofs.Decimal.Order

/-!
# The order of metric values

Values on one scale are compared as numbers, values on different scales not at all. A score beats
a value of its own scale if its value is above it (`beatenBy_iff`). Performance points that are no
number are neither above nor below nor equal to anything; all other values of one scale are in
line. A score is measured by its points in the assisted modes and by its score in all others
(`metricValue_eq`).
-/

namespace Coordination.MetricValue

instance : LE MetricValue where
  le
    | score v, score w => v ≤ w
    | pp v, pp w => v ≤ w
    | _, _ => False

instance : LT MetricValue where
  lt
    | score v, score w => v < w
    | pp v, pp w => v < w
    | _, _ => False

/-- Equality as numbers: the two zeros are equal. -/
instance : BEq MetricValue where
  beq
    | score v, score w => v == w
    | pp v, pp w => v == w
    | _, _ => false

/-- Whether the value can be compared. -/
def isNumber : MetricValue → Bool
  | score _ => true
  | pp v => !v.isNaN

variable {u v w : MetricValue}

/-! ## The laws of the order -/

theorem not_lt_self : ¬ v < v := by
  cases v with
  | score v => exact UInt64.lt_irrefl v
  | pp v => exact Decimal.not_lt_self

theorem le_of_lt (h : v < w) : v ≤ w := by
  cases v with
  | score v =>
    cases w with
    | score w => exact UInt64.le_of_lt h
    | pp w => exact h
  | pp v =>
    cases w with
    | score w => exact h
    | pp w => exact Decimal.le_of_lt h

theorem lt_of_le_of_lt (h : u ≤ v) (h' : v < w) : u < w := by
  match u, v, w, h, h' with
  | score _, score _, score _, h, h' => exact UInt64.lt_of_le_of_lt h h'
  | pp _, pp _, pp _, h, h' => exact Decimal.lt_of_le_of_lt h h'

theorem le_of_beq (h : (v == w) = true) : v ≤ w ∧ w ≤ v := by
  match v, w, h with
  | score v, score w, h =>
    obtain rfl : v = w := eq_of_beq h
    exact ⟨UInt64.le_refl v, UInt64.le_refl v⟩
  | pp v, pp w, h => exact Decimal.le_of_beq h

/-- What is no number is not compared with anything. -/
theorem isNumber_of_le (h : v ≤ w) : v.isNumber = true ∧ w.isNumber = true := by
  match v, w, h with
  | score _, score _, _ => exact ⟨rfl, rfl⟩
  | pp v, pp w, h =>
    obtain ⟨hv, hw⟩ := Decimal.not_isNaN_of_le h
    exact ⟨by rw [isNumber, hv, Bool.not_false], by rw [isNumber, hw, Bool.not_false]⟩

theorem isNumber_of_lt (h : v < w) : v.isNumber = true ∧ w.isNumber = true :=
  isNumber_of_le (le_of_lt h)

theorem lt_or_beq_or_gt (hscale : v.metric = w.metric) (hv : v.isNumber = true)
    (hw : w.isNumber = true) : v < w ∨ (v == w) = true ∨ w < v := by
  match v, w, hscale, hv, hw with
  | score v, score w, _, _, _ =>
    rcases Std.lt_trichotomy v w with h | rfl | h
    · exact .inl h
    · exact .inr (.inl (beq_self_eq_true v))
    · exact .inr (.inr h)
  | pp v, pp w, _, hv, hw =>
    exact Decimal.lt_or_beq_or_gt (by simpa [isNumber] using hv) (by simpa [isNumber] using hw)

theorem le_of_not_lt (hscale : v.metric = w.metric) (hv : v.isNumber = true)
    (hw : w.isNumber = true) (h : ¬ v < w) : w ≤ v := by
  rcases lt_or_beq_or_gt hscale hv hw with hlt | heq | hgt
  · exact absurd hlt h
  · exact (le_of_beq heq).2
  · exact le_of_lt hgt

/-! ## Scores -/

theorem metric_metricValue (s : Score) : s.metricValue.metric = s.mode.metric := by
  unfold Score.metricValue
  split <;> simp_all [metric]

theorem beatenBy_iff {a b : Score} (hmode : a.mode = b.mode) :
    a.metricValue.beatenBy b = true ↔ a.metricValue < b.metricValue := by
  unfold Score.metricValue
  rw [hmode]
  cases b.mode.metric with
  | score => exact decide_eq_true_iff
  | pp => exact decide_eq_true_iff

/-- The value of a score, mode by mode. -/
def ofMode (s : Score) : MetricValue :=
  match s.mode with
  | .vanillaOsu | .vanillaTaiko | .vanillaCatch | .vanillaMania => score s.score
  | .relaxOsu | .relaxTaiko | .relaxCatch | .autopilotOsu => pp s.pp

theorem metricValue_eq (s : Score) : s.metricValue = ofMode s := by
  unfold Score.metricValue ofMode
  cases s.mode <;> rfl

/-- Nobody beats himself. -/
theorem beatenBy_self (s : Score) : s.metricValue.beatenBy s = false := by
  rw [Bool.eq_false_iff, ne_eq, beatenBy_iff rfl]
  exact not_lt_self

end Coordination.MetricValue
