/-!
# Blanks

The characters with the Unicode property `White_Space`, and a text without the blanks at its
two ends.
-/

namespace Coordination.Text

/-- The Unicode property `White_Space`. -/
def isBlank (c : Char) : Bool :=
  let n := c.toNat
  (0x09 ≤ n && n ≤ 0x0D) || n == 0x20 || n == 0x85 || n == 0xA0 || n == 0x1680 ||
    (0x2000 ≤ n && n ≤ 0x200A) || n == 0x2028 || n == 0x2029 || n == 0x202F ||
    n == 0x205F || n == 0x3000

/-- The text without the blanks at its start. -/
def trimStart (cs : List Char) : List Char := cs.dropWhile isBlank

/-- The text without the blanks at its end. -/
def trimEnd (cs : List Char) : List Char := (cs.reverse.dropWhile isBlank).reverse

/-- The text without the blanks at either end. -/
def trim (cs : List Char) : List Char := trimEnd (trimStart cs)

/-- A text that starts and ends with a character that is no blank is its own trimmed form. -/
theorem trim_eq_self {cs : List Char} (hfirst : ∀ c ∈ cs.head?, isBlank c = false)
    (hlast : ∀ c ∈ cs.getLast?, isBlank c = false) : trim cs = cs := by
  have hstart : trimStart cs = cs := by
    cases cs with
    | nil => rfl
    | cons c r => simp [trimStart, hfirst c (by simp)]
  have hend : trimEnd cs = cs := by
    unfold trimEnd
    rw [← List.head?_reverse] at hlast
    cases hr : cs.reverse with
    | nil => simp_all
    | cons c r =>
      have hc : isBlank c = false := hlast c (by simp [hr])
      have hcs : cs = (c :: r).reverse := by rw [← hr, List.reverse_reverse]
      simp [hc, hcs]
  rw [trim, hstart, hend]

end Coordination.Text
