import Coordination.Score.Mods
import Mathlib.Data.List.Sort

/-!
# The modifiers that a text lists

A modifier is shown if it was played and no other one that was played includes it. An including
modifier is included in none itself, so something is shown as soon as any known modifier was
played (`listed_eq_nil_iff`).
-/

namespace Coordination

namespace Modifier

theorem mem_all (x : Modifier) : x ∈ all := by
  cases x <;> decide

/-- The table of modifiers is in strictly ascending order. -/
theorem pairwise_all : all.Pairwise fun x y => x.bit < y.bit := by
  decide

@[simp] theorem length_acronym (x : Modifier) : x.acronym.length = 2 := by
  cases x <;> rfl

theorem includedIn?_of_includes {x y : Modifier} (h : x.includedIn? = some y) :
    y.includedIn? = none := by
  cases x <;> cases h <;> rfl

/-- Lists in ascending order with the same members are the same. -/
theorem eq_of_mem_iff {xs ys : List Modifier} (hxs : xs.Pairwise fun x y => x.bit < y.bit)
    (hys : ys.Pairwise fun x y => x.bit < y.bit) (h : ∀ x, x ∈ xs ↔ x ∈ ys) : xs = ys := by
  have : Std.Irrefl fun x y : Modifier => x.bit < y.bit := ⟨fun x => Nat.lt_irrefl x.bit⟩
  have : Std.Antisymm fun x y : Modifier => x.bit < y.bit :=
    ⟨fun x y hxy hyx => absurd hyx (Nat.lt_asymm hxy)⟩
  exact hxs.eq_of_mem_iff hys h

/-- The acronyms of modifiers without anything between them. -/
def acronyms (xs : List Modifier) : String := String.join (xs.map acronym)

theorem length_acronyms (xs : List Modifier) : (acronyms xs).length = 2 * xs.length := by
  induction xs with
  | nil => rfl
  | cons x xs ih =>
    have hcons : acronyms (x :: xs) = x.acronym ++ acronyms xs := String.join_cons
    rw [hcons, String.length_append, ih, length_acronym, List.length_cons, Nat.mul_succ,
      Nat.add_comm]

end Modifier

namespace Mods

variable (m : Mods) (x : Modifier)

/-- The modifier was played and no other one that was played includes it. -/
def Shows : Prop := m.has x ∧ ∀ y, x.includedIn? = some y → m.has y = false

theorem mem_listed : x ∈ m.listed ↔ m.Shows x := by
  simp [listed, Shows, Modifier.mem_all, Option.any_eq_false]

theorem pairwise_listed : m.listed.Pairwise fun x y => x.bit < y.bit :=
  Modifier.pairwise_all.filter _

/-- What includes another modifier is itself included in none. -/
theorem shows_of_includes {x y : Modifier} (h : x.includedIn? = some y) : m.Shows y ↔ m.has y := by
  rw [Shows, Modifier.includedIn?_of_includes h]
  simp

/-- A modifier that was played is shown, or another one is that includes it. -/
theorem shows_or_includer (h : m.has x) :
    m.Shows x ∨ ∃ y, x.includedIn? = some y ∧ m.Shows y := by
  by_cases hincluded : ∃ y, x.includedIn? = some y ∧ m.has y
  · obtain ⟨y, hy, hplayed⟩ := hincluded
    exact .inr ⟨y, hy, (m.shows_of_includes hy).2 hplayed⟩
  · refine .inl ⟨h, fun y hy => ?_⟩
    rw [← Bool.not_eq_true]
    exact fun hplayed => hincluded ⟨y, hy, hplayed⟩

/-- Nothing is listed only if no known modifier was played. -/
theorem listed_eq_nil_iff : m.listed = [] ↔ ∀ x, m.has x = false := by
  rw [List.eq_nil_iff_forall_not_mem]
  simp only [mem_listed]
  constructor
  · intro h x
    by_contra hx
    rw [Bool.not_eq_false] at hx
    rcases m.shows_or_includer x hx with hshows | ⟨y, -, hshows⟩
    · exact h x hshows
    · exact h y hshows
  · intro h x hx
    exact absurd hx.1 (by simp [h x])

/-- Without bits no modifier was played. -/
theorem has_of_isEmpty (h : m.isEmpty) : m.has x = false := by
  have hbits : m.bits = 0 := by simpa [isEmpty] using h
  simp [has, hbits]

theorem text_of_not_isEmpty (h : ¬ m.isEmpty) : m.text = Modifier.acronyms m.listed := if_neg h

end Mods

end Coordination
