import Mathlib.Data.Nat.Bitwise
import Coordination.Proofs.Score.Mods

/-!
# Reading the modifiers of a text

All acronyms have two letters, so a row of them is taken apart in one way only
(`readAcronyms?_eq_some_iff`). The modifiers that a text does not list are included in ones that it
lists, so with these they are recovered (`withIncluded_ofModifiers_listed`); and what is recovered
decides the text (`listed_eq_listed_iff`). Bits that the table does not know leave no trace.
-/

namespace Coordination

namespace Modifier

/-! ## Acronyms -/

def ofAcronym? (s : String) : Option Modifier := all.find? fun x => x.acronym == s

theorem ofAcronym?_acronym (x : Modifier) : ofAcronym? x.acronym = some x := by
  cases x <;> rfl

theorem ofAcronym?_eq_some_iff {s : String} {x : Modifier} :
    ofAcronym? s = some x ↔ s = x.acronym := by
  constructor
  · intro h
    have hx := List.find?_some (p := fun x : Modifier => x.acronym == s) h
    exact (eq_of_beq hx).symm
  · rintro rfl
    exact x.ofAcronym?_acronym

/-- The modifiers whose acronyms the letters are, two letters at a time. -/
def readAcronyms? : List Char → Option (List Modifier)
  | [] => some []
  | [_] => none
  | a :: b :: rest => do
    let x ← ofAcronym? (String.ofList [a, b])
    let xs ← readAcronyms? rest
    return x :: xs

theorem acronyms_cons (x : Modifier) (xs : List Modifier) :
    acronyms (x :: xs) = x.acronym ++ acronyms xs := String.join_cons

theorem readAcronyms?_acronyms (xs : List Modifier) :
    readAcronyms? (acronyms xs).toList = some xs := by
  induction xs with
  | nil => rfl
  | cons x xs ih =>
    obtain ⟨a, b, hletters⟩ := List.length_eq_two.1 (String.length_toList.trans x.length_acronym)
    have hacronym : String.ofList [a, b] = x.acronym := by rw [← hletters, String.ofList_toList]
    rw [acronyms_cons, String.toList_append, hletters, List.cons_append, List.cons_append,
      List.nil_append, readAcronyms?, hacronym, ofAcronym?_acronym, ih]
    rfl

theorem eq_of_readAcronyms? {cs : List Char} {xs : List Modifier}
    (h : readAcronyms? cs = some xs) : cs = (acronyms xs).toList := by
  fun_induction readAcronyms? cs generalizing xs with
  | case1 =>
    obtain rfl := Option.some.inj h
    rfl
  | case2 => cases h
  | case3 a b rest ih =>
    obtain ⟨x, hx, h⟩ := Option.bind_eq_some_iff.1 h
    obtain ⟨ys, hys, h⟩ := Option.bind_eq_some_iff.1 h
    obtain rfl := Option.some.inj h
    rw [acronyms_cons, String.toList_append, ← ofAcronym?_eq_some_iff.1 hx, ← ih hys,
      String.toList_ofList]
    rfl

/-- What is read is what was written, and nothing else can be read. -/
theorem readAcronyms?_eq_some_iff {cs : List Char} {xs : List Modifier} :
    readAcronyms? cs = some xs ↔ cs = (acronyms xs).toList :=
  ⟨eq_of_readAcronyms?, fun h => h ▸ readAcronyms?_acronyms xs⟩

/-! ## Flags -/

theorem all_getElem?_bit (x : Modifier) : all[x.bit]? = some x := by
  cases x <;> rfl

theorem bit_injective {x y : Modifier} (h : x.bit = y.bit) : x = y :=
  Option.some.inj (x.all_getElem?_bit.symm.trans (h ▸ y.all_getElem?_bit))

theorem bit_lt (x : Modifier) : x.bit < 15 := by
  cases x <;> decide

/-- The bits of the table are the lowest fifteen. -/
theorem exists_bit_eq {i : ℕ} (h : i < 15) : ∃ x : Modifier, x.bit = i := by
  have hbits : all.map bit = List.range 15 := rfl
  have hi : i ∈ all.map bit := by rwa [hbits, List.mem_range]
  obtain ⟨x, -, hx⟩ := List.mem_map.1 hi
  exact ⟨x, hx⟩

/-- The modifier alone. -/
def flag (x : Modifier) : Mods := ⟨1 <<< UInt32.ofNat x.bit⟩

theorem toNat_flag (x : Modifier) : x.flag.bits.toNat = 2 ^ x.bit := by
  cases x <;> rfl

end Modifier

namespace Mods

theorem contains_flag (m : Mods) (x : Modifier) : m.contains x.flag = m.has x := by
  rw [contains, has, Bool.eq_iff_iff, beq_iff_eq, ← UInt32.toNat_inj, UInt32.toNat_and,
    x.toNat_flag, Nat.and_two_pow]
  have hpositive : 2 ^ x.bit ≠ 0 := Nat.two_pow_pos x.bit |>.ne'
  cases m.bits.toNat.testBit x.bit <;> simp [hpositive.symm]

theorem has_flag (x y : Modifier) : x.flag.has y = decide (x = y) := by
  rw [has, x.toNat_flag, Nat.testBit_two_pow]
  exact decide_eq_decide.2 ⟨Modifier.bit_injective, congrArg _⟩

/-- The modifiers of a list. -/
def ofModifiers (xs : List Modifier) : Mods := ⟨xs.foldr (fun x bits => x.flag.bits ||| bits) 0⟩

/-- The lowest fifteen bits. -/
def known (m : Mods) : Mods := ⟨m.bits &&& 0x7FFF⟩

/-- With double time too if nightcore was played, and with sudden death if perfect was. -/
def withIncluded (m : Mods) : Mods :=
  let doubleTime := if m.contains Modifier.nightcore.flag then Modifier.doubleTime.flag.bits else 0
  let suddenDeath := if m.contains Modifier.perfect.flag then Modifier.suddenDeath.flag.bits else 0
  ⟨m.bits ||| doubleTime ||| suddenDeath⟩

theorem has_or (m : Mods) (bits : UInt32) (x : Modifier) :
    (Mods.mk (m.bits ||| bits)).has x = (m.has x || (Mods.mk bits).has x) := by
  rw [has, UInt32.toNat_or, Nat.testBit_or]
  rfl

theorem has_ofModifiers (xs : List Modifier) (x : Modifier) :
    (ofModifiers xs).has x = decide (x ∈ xs) := by
  induction xs with
  | nil => simp [ofModifiers, has]
  | cons y xs ih =>
    have hcons : ofModifiers (y :: xs) = ⟨y.flag.bits ||| (ofModifiers xs).bits⟩ := rfl
    rw [hcons, has_or, has_flag, ih]
    simp [eq_comm]

theorem has_known (m : Mods) (x : Modifier) : m.known.has x = m.has x := by
  have hmask : (0x7FFF : UInt32).toNat = 2 ^ 15 - 1 := rfl
  rw [has, known, UInt32.toNat_and, hmask, Nat.testBit_and, Nat.testBit_two_pow_sub_one]
  simp [has, x.bit_lt]

theorem has_withIncluded (m : Mods) (x : Modifier) :
    m.withIncluded.has x = (m.has x || x.includedIn?.any m.has) := by
  have hif (c : Bool) (y : Modifier) :
      (Mods.mk (if c then y.flag.bits else 0)).has x = (c && decide (y = x)) := by
    cases c with
    | false => simp [has]
    | true => exact (has_flag y x).trans (Bool.true_and _).symm
  rw [withIncluded, has_or, has_or, hif, hif, contains_flag, contains_flag]
  cases x <;> simp [Modifier.includedIn?]

/-! ## Sets of known modifiers -/

/-- All bits are among the lowest fifteen. -/
def IsKnown (m : Mods) : Prop := m.bits.toNat < 2 ^ 15

theorem isKnown_zero : IsKnown ⟨0⟩ := Nat.two_pow_pos 15

theorem isKnown_flag (x : Modifier) : IsKnown x.flag := by
  rw [IsKnown, x.toNat_flag]
  exact Nat.pow_lt_pow_right Nat.one_lt_two x.bit_lt

theorem isKnown_ofModifiers (xs : List Modifier) : (ofModifiers xs).IsKnown := by
  induction xs with
  | nil => exact isKnown_zero
  | cons x xs ih => exact Nat.or_lt_two_pow (isKnown_flag x) ih

section

variable {m m' : Mods} {x : Modifier}

theorem isKnown_known : m.known.IsKnown := by
  rw [IsKnown, known, UInt32.toNat_and]
  exact Nat.and_lt_two_pow _ (by decide)

theorem IsKnown.withIncluded (h : m.IsKnown) : m.withIncluded.IsKnown := by
  have hif (c : Bool) (y : Modifier) : (Mods.mk (if c then y.flag.bits else 0)).IsKnown := by
    cases c with
    | false => exact isKnown_zero
    | true => exact isKnown_flag y
  exact Nat.or_lt_two_pow (Nat.or_lt_two_pow h (hif _ _)) (hif _ _)

/-- Sets of known modifiers with the same members are the same. -/
theorem IsKnown.eq_of_has (h : m.IsKnown) (h' : m'.IsKnown) (heq : ∀ x, m.has x = m'.has x) :
    m = m' := by
  have hbits : m.bits.toNat = m'.bits.toNat := by
    apply Nat.eq_of_testBit_eq
    intro i
    by_cases hi : i < 15
    · obtain ⟨x, rfl⟩ := Modifier.exists_bit_eq hi
      exact heq x
    · have hpow : 2 ^ 15 ≤ 2 ^ i := Nat.pow_le_pow_right Nat.two_pos (Nat.le_of_not_lt hi)
      rw [Nat.testBit_lt_two_pow (h.trans_le hpow), Nat.testBit_lt_two_pow (h'.trans_le hpow)]
  exact congrArg Mods.mk (UInt32.toNat_inj.1 hbits)

theorem has_withIncluded_iff :
    m.withIncluded.has x ↔ m.has x ∨ ∃ y, x.includedIn? = some y ∧ m.has y := by
  rw [has_withIncluded, Bool.or_eq_true]
  cases x.includedIn? <;> simp

theorem has_withIncluded_of_includes {y : Modifier} (h : x.includedIn? = some y) :
    m.withIncluded.has y = m.has y := by
  rw [has_withIncluded, Modifier.includedIn?_of_includes h, Option.any_none, Bool.or_false]

/-- The modifiers that are shown, with those that they include, are all that were played, with
those that they include. -/
theorem withIncluded_ofModifiers_listed (m : Mods) :
    (ofModifiers m.listed).withIncluded = m.known.withIncluded := by
  apply (isKnown_ofModifiers _).withIncluded.eq_of_has isKnown_known.withIncluded
  intro x
  rw [Bool.eq_iff_iff, has_withIncluded_iff, has_withIncluded_iff]
  simp only [has_ofModifiers, has_known, decide_eq_true_eq, mem_listed]
  constructor
  · rintro (hx | ⟨y, hy, hshows⟩)
    · exact .inl hx.1
    · exact .inr ⟨y, hy, hshows.1⟩
  · rintro (hx | ⟨y, hy, hplayed⟩)
    · exact m.shows_or_includer x hx
    · exact .inr ⟨y, hy, (m.shows_of_includes hy).2 hplayed⟩

theorem listed_eq_of_shows (h : ∀ x, m.Shows x ↔ m'.Shows x) : m.listed = m'.listed := by
  refine Modifier.eq_of_mem_iff m.pairwise_listed m'.pairwise_listed fun x => ?_
  rw [mem_listed, mem_listed, h]

theorem listed_known (m : Mods) : m.known.listed = m.listed := by
  apply listed_eq_of_shows
  intro x
  simp only [Shows, has_known]

/-- Included modifiers are not shown, so it does not matter whether they are there. -/
theorem listed_withIncluded (m : Mods) : m.withIncluded.listed = m.listed := by
  apply listed_eq_of_shows
  intro x
  rw [Shows, Shows]
  constructor
  · rintro ⟨hx, hincluded⟩
    have hnone (y : Modifier) (hy : x.includedIn? = some y) : m.has y = false := by
      rw [← has_withIncluded_of_includes hy, hincluded y hy]
    refine ⟨?_, hnone⟩
    rcases has_withIncluded_iff.1 hx with hplayed | ⟨y, hy, hplayed⟩
    · exact hplayed
    · rw [hnone y hy] at hplayed
      cases hplayed
  · rintro ⟨hx, hincluded⟩
    refine ⟨has_withIncluded_iff.2 (.inl hx), fun y hy => ?_⟩
    rw [has_withIncluded_of_includes hy, hincluded y hy]

theorem listed_eq_listed_iff :
    m.listed = m'.listed ↔ m.known.withIncluded = m'.known.withIncluded := by
  constructor
  · intro h
    rw [← withIncluded_ofModifiers_listed, h, withIncluded_ofModifiers_listed]
  · intro h
    rw [← listed_known m, ← listed_withIncluded, h, listed_withIncluded, listed_known]

end

/-! ## Main statement -/

/-- The text of a mask that is not zero is read two letters at a time. Each modifier is found at
most once, in ascending order of the bits, and with double time if nightcore is found and sudden
death if perfect is, the modifiers are the lowest fifteen bits of the mask with the same two
included. So the texts of two masks are the same exactly if these bits are, with what they
include. -/
theorem text_determines_known :
    (∀ m : Mods, m.bits ≠ 0 → ∃ xs, Modifier.readAcronyms? m.text.toList = some xs ∧
      xs.Pairwise (fun x y => x.bit < y.bit) ∧
      (ofModifiers xs).withIncluded = m.known.withIncluded) ∧
    ∀ m m' : Mods, m.bits ≠ 0 → m'.bits ≠ 0 →
      (m.text = m'.text ↔ m.known.withIncluded = m'.known.withIncluded) := by
  have htext {m : Mods} (h : m.bits ≠ 0) : m.text = Modifier.acronyms m.listed :=
    m.text_of_not_isEmpty (by simpa [isEmpty] using h)
  have hread {m : Mods} (h : m.bits ≠ 0) :
      Modifier.readAcronyms? m.text.toList = some m.listed := by
    rw [Modifier.readAcronyms?_eq_some_iff, htext h]
  refine ⟨fun m h => ?_, fun m m' h h' => ?_⟩
  · exact ⟨m.listed, hread h, m.pairwise_listed, withIncluded_ofModifiers_listed m⟩
  · rw [← listed_eq_listed_iff]
    constructor
    · intro heq
      exact Option.some.inj ((hread h).symm.trans (heq ▸ hread h'))
    · intro heq
      rw [htext h, htext h', heq]

/-- Nightcore with double time and an unknown bit, and nightcore without either. -/
theorem text_determines_known_nightcore :
    let m : Mods := ⟨0x100248⟩
    let m' : Mods := ⟨0x208⟩
    m.bits ≠ 0 ∧ m'.bits ≠ 0 ∧ m.text = "HDNC" ∧ m.text = m'.text ∧
    m.known.withIncluded = m'.known.withIncluded ∧
    ∃ xs, Modifier.readAcronyms? m.text.toList = some xs ∧
      xs.Pairwise (fun x y => x.bit < y.bit) ∧ (ofModifiers xs).withIncluded = ⟨0x248⟩ := by
  intro m m'
  have hm : m.bits ≠ 0 := by decide
  have hm' : m'.bits ≠ 0 := by decide
  have hsame : m.known.withIncluded = m'.known.withIncluded := by decide
  have hmask : m.known.withIncluded = ⟨0x248⟩ := by decide
  obtain ⟨hreads, hdecides⟩ := text_determines_known
  refine ⟨hm, hm', by decide +kernel, (hdecides m m' hm hm').2 hsame, hsame, ?_⟩
  rw [← hmask]
  exact hreads m hm

end Mods

end Coordination
