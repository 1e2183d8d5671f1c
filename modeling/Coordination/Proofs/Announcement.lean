import Coordination.Announcement
import Coordination.Proofs.Score.Mods

/-!
# The mods part of an announcement

An announcement names the modifiers that the score's text lists, if there are any, and leaves the
part out otherwise. It tells whether there are any by the whole set of bits, of which the table of
modifiers knows fifteen. So the line has this form exactly if the bits are all zero or one of them
is known (`text_documented_iff`); with unknown bits alone the part is a sign and a space.
-/

namespace Coordination.Announcement

/-- The line with `part` in the place of the mods. -/
def line (a : Announcement) (part : String) : String :=
  "\x01ACTION achieved #" ++ toString a.rank ++ " on " ++ a.beatmap ++ " " ++ part ++ "with " ++
    Decimal.fixed 2 a.accuracy ++ "% for " ++ Decimal.Layout.message.write a.pp ++ "pp."

/-- The part that names the modifiers to be shown, in ascending order of their bits, or nothing if
there is none to show. -/
def DocumentsMods (m : Mods) (part : String) : Prop :=
  ∃ xs : List Modifier, (∀ x, x ∈ xs ↔ m.Shows x) ∧ xs.Pairwise (fun x y => x.bit < y.bit) ∧
    (∀ x ∈ xs, x.acronym.length = 2) ∧
    part = if xs = [] then "" else "+" ++ Modifier.acronyms xs ++ " "

theorem line_injective (a : Announcement) {part part' : String} (h : a.line part = a.line part') :
    part = part' := by
  unfold line at h
  simpa only [String.append_left_inj, String.append_right_inj] using h

theorem text_eq_line (a : Announcement) : a.text = a.line (modsPart a.mods) := rfl

section Part

variable {m : Mods}

/-- Only one part names the modifiers to be shown. -/
theorem documentsMods_iff {part : String} : DocumentsMods m part ↔
    part = if m.listed = [] then "" else "+" ++ Modifier.acronyms m.listed ++ " " := by
  constructor
  · rintro ⟨xs, hshows, hsorted, -, rfl⟩
    have hmem (x : Modifier) : x ∈ xs ↔ x ∈ m.listed := (hshows x).trans (m.mem_listed x).symm
    rw [Modifier.eq_of_mem_iff hsorted m.pairwise_listed hmem]
  · intro h
    exact ⟨m.listed, m.mem_listed, m.pairwise_listed, fun x _ => x.length_acronym, h⟩

theorem modsPart_of_isEmpty (h : m.isEmpty) : modsPart m = "" := if_pos h

theorem modsPart_of_not_isEmpty (h : ¬ m.isEmpty) :
    modsPart m = "+" ++ Modifier.acronyms m.listed ++ " " := by
  rw [modsPart, if_neg h, m.text_of_not_isEmpty h]

/-- Unknown bits alone leave a sign and a space. -/
theorem modsPart_of_unknown (h : ¬ m.isEmpty) (hknown : ¬ ∃ x, m.has x) : modsPart m = "+ " := by
  have hlisted : m.listed = [] := m.listed_eq_nil_iff.2 (by simpa using hknown)
  rw [modsPart_of_not_isEmpty h, hlisted]
  rfl

theorem not_documentsMods_bare : ¬ DocumentsMods m "+ " := by
  rw [documentsMods_iff]
  split
  · decide
  · rename_i hlisted
    intro h
    have hlength := congrArg String.length h
    have hpositive := List.length_pos_of_ne_nil hlisted
    rw [String.length_append, String.length_append, Modifier.length_acronyms] at hlength
    change 2 = 1 + 2 * m.listed.length + 1 at hlength
    omega

theorem documentsMods_modsPart_iff :
    DocumentsMods m (modsPart m) ↔ m.isEmpty ∨ ∃ x, m.has x := by
  by_cases h : m.isEmpty
  · have hlisted : m.listed = [] := m.listed_eq_nil_iff.2 (fun x => m.has_of_isEmpty x h)
    rw [documentsMods_iff, if_pos hlisted, modsPart_of_isEmpty h]
    simp [h]
  · by_cases hknown : ∃ x, m.has x
    · have hlisted : m.listed ≠ [] := by
        rw [ne_eq, m.listed_eq_nil_iff]
        simpa using hknown
      rw [documentsMods_iff, if_neg hlisted, modsPart_of_not_isEmpty h]
      simp [hknown]
    · rw [modsPart_of_unknown h hknown]
      simp [h, hknown, not_documentsMods_bare]

end Part

/-- The line of an announcement has its documented form exactly if the score was played without
any bit, and then the mods part is left out, or with a known modifier among its bits. Otherwise the
part is a sign and a space. -/
theorem text_documented_iff (a : Announcement) :
    ((∃ part, DocumentsMods a.mods part ∧ a.text = a.line part) ↔
      a.mods.isEmpty ∨ ∃ x, a.mods.has x) ∧
    (a.mods.isEmpty → a.text = a.line "") ∧
    (¬ (a.mods.isEmpty ∨ ∃ x, a.mods.has x) → a.text = a.line "+ ") := by
  refine ⟨?_, ?_, ?_⟩
  · rw [← documentsMods_modsPart_iff]
    constructor
    · rintro ⟨part, hpart, htext⟩
      rwa [a.line_injective (a.text_eq_line.symm.trans htext)]
    · exact fun h => ⟨_, h, a.text_eq_line⟩
  · intro h
    rw [text_eq_line, modsPart_of_isEmpty h]
  · rw [not_or]
    rintro ⟨h, hknown⟩
    rw [text_eq_line, modsPart_of_unknown h hknown]

/-- A score with a bit that the table does not know is announced with a bare sign. -/
theorem text_undocumented_unknown :
    let a : Announcement := { rank := 3, beatmap := "b", mods := ⟨32768⟩, accuracy := 95, pp := 10 }
    a.text = "\x01ACTION achieved #3 on b + with 95.00% for 10.0pp." ∧
      ¬ ∃ part, DocumentsMods a.mods part ∧ a.text = a.line part := by
  intro a
  have hbare : modsPart a.mods = "+ " := by decide +kernel
  refine ⟨by decide +kernel, ?_⟩
  rintro ⟨part, hpart, htext⟩
  rw [text_eq_line, hbare] at htext
  rw [← a.line_injective htext] at hpart
  exact not_documentsMods_bare hpart

end Coordination.Announcement
