import Coordination.Decimal.Layout
import Coordination.Proofs.Decimal.Bits
import Coordination.Text.Numeral

/-!
# Number text that is read back

A reader of number text takes `NaN`, or an optional sign and then `inf` or a decimal numeral, and
rounds the numeral to the nearest double. Every layout writes a text of the number that the shortest
digits stand for (`readMagnitude?_magnitude`), and that number rounds to the double. So the reader
finds each double again, the zeros with their signs and the infinities included
(`readDouble?_write`).
-/

/-! ## Texts in two parts -/

namespace Coordination.Text

/-- What comes before the first such character, and what follows it if there is one. -/
def cut (c : Char) : List Char → List Char × Option (List Char)
  | [] => ([], none)
  | d :: cs => if d = c then ([], some cs) else (d :: (cut c cs).1, (cut c cs).2)

theorem cut_self (c : Char) (cs : List Char) : cut c (c :: cs) = ([], some cs) := if_pos rfl

theorem cut_cons {c d : Char} (h : d ≠ c) (cs : List Char) :
    cut c (d :: cs) = (d :: (cut c cs).1, (cut c cs).2) := if_neg h

theorem cut_append {c : Char} {before : List Char} (h : c ∉ before) (after : List Char) :
    cut c (before ++ c :: after) = (before, some after) := by
  induction before with
  | nil => exact cut_self c after
  | cons d before ih =>
    have hne : d ≠ c := fun hd => h (hd ▸ List.mem_cons_self)
    rw [List.cons_append, cut_cons hne, ih fun hmem => h (List.mem_cons_of_mem d hmem)]

theorem cut_of_notMem {c : Char} {cs : List Char} (h : c ∉ cs) : cut c cs = (cs, none) := by
  induction cs with
  | nil => rfl
  | cons d cs ih =>
    have hne : d ≠ c := fun hd => h (hd ▸ List.mem_cons_self)
    rw [cut_cons hne, ih fun hmem => h (List.mem_cons_of_mem d hmem)]

end Coordination.Text

namespace Coordination.Decimal

open Text (cut cut_self cut_cons cut_append cut_of_notMem readDigits? readSigned?)

/-! ## The reader -/

/-- Digits, with or without a point among them. -/
def readPlain? (cs : List Char) : Option Digits :=
  match cut '.' cs with
  | (whole, none) => (readDigits? whole).map fun n => ⟨n, 0⟩
  | (whole, some fraction) =>
    if whole = [] ∨ fraction = [] then none
    else (readDigits? (whole ++ fraction)).map fun n => ⟨n, -fraction.length⟩

/-- Such digits with or without an exponent. -/
def readMagnitude? (cs : List Char) : Option Digits :=
  match cut 'e' cs with
  | (plain, none) => readPlain? plain
  | (plain, some power) =>
    (readPlain? plain).bind fun d => (readSigned? power).map fun n => ⟨d.digits, d.exponent + n⟩

/-- The number of the magnitude nearest to the number. -/
def Digits.nearest (d : Digits) : ℕ :=
  nearestIndex (d.digits * tenTo d.exponent.toNat) (tenTo (-d.exponent).toNat)

def readUnsigned? (negative : Bool) (cs : List Char) : Option Float :=
  if cs = ['i', 'n', 'f'] then some (ofIndex negative infinityIndex)
  else (readMagnitude? cs).map fun d => ofIndex negative d.nearest

/-- The double that a text stands for. -/
def readDouble? : List Char → Option Float
  | '-' :: cs => readUnsigned? true cs
  | cs => if cs = ['N', 'a', 'N'] then some .nan else readUnsigned? false cs

/-! ## Digits -/

section

variable {cs : List Char} {n : ℕ}

theorem isDigit_of_mem_toDigits {c : Char} (h : c ∈ Nat.toDigits 10 n) : c.isDigit = true :=
  Nat.isDigit_of_mem_toDigits (by decide) (by decide) h

theorem isDigit_of_mem_zeros {c : Char} (h : c ∈ List.replicate n '0') : c.isDigit = true := by
  rw [List.eq_of_mem_replicate h]
  rfl

theorem isDigit_of_mem_padded {c : Char} {k : ℕ}
    (h : c ∈ List.replicate k '0' ++ Nat.toDigits 10 n) : c.isDigit = true := by
  rcases List.mem_append.1 h with h | h
  · exact isDigit_of_mem_zeros h
  · exact isDigit_of_mem_toDigits h

theorem notMem_of_digits {c : Char} (h : ∀ d ∈ cs, d.isDigit = true) (hc : c.isDigit = false) :
    c ∉ cs := by
  intro hmem
  rw [h c hmem] at hc
  cases hc

theorem readDigits?_of_digits (hne : cs ≠ []) (h : ∀ d ∈ cs, d.isDigit = true) :
    readDigits? cs = some (Nat.ofDigitChars 10 cs 0) :=
  if_pos ⟨hne, List.all_eq_true.2 h⟩

theorem readDigits?_eq_none {c : Char} (hc : c.isDigit = false) (cs : List Char) :
    readDigits? (c :: cs) = none := by
  unfold readDigits?
  rw [if_neg]
  rintro ⟨-, hall⟩
  rw [List.all_cons, hc] at hall
  cases hall

theorem ofDigitChars_zeros (n init : ℕ) :
    Nat.ofDigitChars 10 (List.replicate n '0') init = init * 10 ^ n := by
  induction n generalizing init with
  | zero => simp
  | succ n ih =>
    rw [List.replicate_succ, Nat.ofDigitChars_cons, ih, Nat.pow_succ]
    simp only [Nat.sub_self, Nat.add_zero]
    ring

/-- Zeros in front of digits do not count. -/
theorem ofDigitChars_padded (k n : ℕ) :
    Nat.ofDigitChars 10 (List.replicate k '0' ++ Nat.toDigits 10 n) 0 = n := by
  rw [Nat.ofDigitChars_append, ofDigitChars_zeros, Nat.zero_mul, Nat.ofDigitChars_ten_toDigits]

end

/-! ## Numerals -/

section

variable {whole fraction cs : List Char}

theorem readPlain?_whole (hne : whole ≠ []) (h : ∀ d ∈ whole, d.isDigit = true) :
    readPlain? whole = some ⟨Nat.ofDigitChars 10 whole 0, 0⟩ := by
  unfold readPlain?
  rw [cut_of_notMem (notMem_of_digits h rfl)]
  dsimp only
  rw [readDigits?_of_digits hne h]
  rfl

theorem readPlain?_fraction (hwhole : whole ≠ []) (hfraction : fraction ≠ [])
    (h : ∀ d ∈ whole ++ fraction, d.isDigit = true) :
    readPlain? (whole ++ '.' :: fraction) =
      some ⟨Nat.ofDigitChars 10 (whole ++ fraction) 0, -fraction.length⟩ := by
  have hpoint : '.' ∉ whole := notMem_of_digits (fun d hd => h d (List.mem_append_left _ hd)) rfl
  unfold readPlain?
  rw [cut_append hpoint]
  dsimp only
  rw [if_neg (not_or.2 ⟨hwhole, hfraction⟩),
    readDigits?_of_digits (List.append_ne_nil_of_left_ne_nil hwhole _) h]
  rfl

theorem readPlain?_eq_none {c : Char} (hc : c.isDigit = false) (cs : List Char) :
    readPlain? (c :: cs) = none := by
  unfold readPlain?
  by_cases hpoint : c = '.'
  · rw [hpoint, cut_self]
    exact if_pos (.inl rfl)
  · rw [cut_cons hpoint]
    rcases cut '.' cs with ⟨whole, _ | fraction⟩
    · dsimp only
      rw [readDigits?_eq_none hc]
      rfl
    · dsimp only
      rw [List.cons_append, readDigits?_eq_none hc]
      split <;> rfl

/-- A numeral starts with a digit. -/
theorem readMagnitude?_eq_none {c : Char} (hc : c.isDigit = false) (cs : List Char) :
    readMagnitude? (c :: cs) = none := by
  unfold readMagnitude?
  by_cases hpower : c = 'e'
  · rw [hpower, cut_self]
    rfl
  · rw [cut_cons hpower]
    rcases cut 'e' cs with ⟨plain, _ | power⟩
    · exact readPlain?_eq_none hc plain
    · dsimp only
      rw [readPlain?_eq_none hc]
      rfl

theorem readMagnitude?_of_plain (h : 'e' ∉ cs) : readMagnitude? cs = readPlain? cs := by
  unfold readMagnitude?
  rw [cut_of_notMem h]

end

/-! ## What is written -/

namespace Layout

variable {D : Digits}

/-- A number without decimal places has one zero behind the point. -/
theorem readPlain?_positional_whole (n : ℕ) {exponent : ℤ} (h : 0 ≤ exponent) :
    readPlain? (positional (Nat.toDigits 10 n) exponent) =
      some ⟨n * 10 ^ exponent.toNat * 10, -1⟩ := by
  have hne : Nat.toDigits 10 n ++ List.replicate exponent.toNat '0' ≠ [] :=
    List.append_ne_nil_of_left_ne_nil Nat.toDigits_ne_nil _
  have hdigits : ∀ d ∈ Nat.toDigits 10 n ++ List.replicate exponent.toNat '0' ++ ['0'],
      d.isDigit = true := by
    intro d hd
    rw [List.mem_append, List.mem_append, List.mem_singleton] at hd
    rcases hd with (hd | hd) | rfl
    · exact isDigit_of_mem_toDigits hd
    · exact isDigit_of_mem_zeros hd
    · rfl
  unfold positional
  rw [if_pos h, readPlain?_fraction hne (List.cons_ne_nil _ _) hdigits, Nat.ofDigitChars_append,
    Nat.ofDigitChars_append, Nat.ofDigitChars_ten_toDigits, ofDigitChars_zeros, Nat.ofDigitChars_cons,
    Nat.ofDigitChars_nil, Nat.mul_comm 10]
  rfl

theorem readPlain?_positional_fraction (n : ℕ) {exponent : ℤ} (h : exponent < 0) :
    readPlain? (positional (Nat.toDigits 10 n) exponent) = some ⟨n, exponent⟩ := by
  let places := (-exponent).toNat
  let padded := List.replicate (places + 1 - (Nat.toDigits 10 n).length) '0' ++ Nat.toDigits 10 n
  let whole := padded.length - places
  have hlength : places + 1 ≤ padded.length := by
    simp only [padded, List.length_append, List.length_replicate]
    omega
  have hplaces : (padded.drop whole).length = places := by
    rw [List.length_drop]
    omega
  have hwhole : padded.take whole ≠ [] := by
    rw [← List.length_pos_iff, List.length_take]
    omega
  have hfraction : padded.drop whole ≠ [] := by
    rw [← List.length_pos_iff, hplaces]
    omega
  have hdigits : ∀ d ∈ padded.take whole ++ padded.drop whole, d.isDigit = true := by
    intro d hd
    rw [List.take_append_drop] at hd
    exact isDigit_of_mem_padded hd
  have hexponent : -(places : ℤ) = exponent := by omega
  unfold positional
  rw [if_neg (by omega)]
  show readPlain? (padded.take whole ++ '.' :: padded.drop whole) = _
  rw [readPlain?_fraction hwhole hfraction hdigits, hplaces, hexponent, List.take_append_drop,
    ofDigitChars_padded]

theorem mem_positional {c : Char} {n : ℕ} {exponent : ℤ}
    (h : c ∈ positional (Nat.toDigits 10 n) exponent) : c.isDigit = true ∨ c = '.' := by
  unfold positional at h
  split at h
  · rw [List.mem_append, List.mem_append] at h
    rcases h with (h | h) | h
    · exact .inl (isDigit_of_mem_toDigits h)
    · exact .inl (isDigit_of_mem_zeros h)
    · rcases List.mem_pair.1 h with rfl | rfl
      · exact .inr rfl
      · exact .inl rfl
  · dsimp only at h
    rw [List.mem_append, List.mem_cons] at h
    rcases h with h | h | h
    · exact .inl (isDigit_of_mem_padded (List.mem_of_mem_take h))
    · exact .inr h
    · exact .inl (isDigit_of_mem_padded (List.mem_of_mem_drop h))

/-- The digits of a number that has an exponent. -/
def pointed (digits : List Char) : List Char :=
  digits.take 1 ++ match digits.drop 1 with
    | [] => []
    | rest => '.' :: rest

def exponentSign (plus : Bool) (lead : ℤ) : List Char :=
  if lead < 0 then ['-'] else if plus then ['+'] else []

theorem scientific_eq (plus : Bool) (digits : List Char) (lead : ℤ) :
    scientific plus digits lead =
      pointed digits ++ 'e' :: (exponentSign plus lead ++ Nat.toDigits 10 lead.natAbs) :=
  List.append_assoc (pointed digits) ('e' :: exponentSign plus lead) _

theorem readSigned?_exponentSign (plus : Bool) (lead : ℤ) :
    readSigned? (exponentSign plus lead ++ Nat.toDigits 10 lead.natAbs) = some lead := by
  have hread := Text.readDigits?_toDigits lead.natAbs
  unfold exponentSign
  split
  · rw [List.singleton_append, readSigned?, hread]
    show some (-(lead.natAbs : ℤ)) = some lead
    congr 1
    omega
  · have hnat : (lead.natAbs : ℤ) = lead := by omega
    split
    · rw [List.singleton_append, readSigned?, hread]
      exact congrArg some hnat
    · rw [List.nil_append, Text.readSigned?_of_readDigits? hread, hnat]

theorem readPlain?_pointed (n : ℕ) :
    readPlain? (pointed (Nat.toDigits 10 n)) =
      some ⟨n, 1 - (Nat.toDigits 10 n).length⟩ := by
  have hn := Nat.ofDigitChars_ten_toDigits (n := n)
  have hdigits : ∀ d ∈ Nat.toDigits 10 n, d.isDigit = true := fun d => isDigit_of_mem_toDigits
  obtain ⟨c, rest, hcons⟩ := List.exists_cons_of_ne_nil (Nat.toDigits_ne_nil (n := n) (b := 10))
  rw [hcons] at hn hdigits ⊢
  cases rest with
  | nil =>
    show readPlain? [c] = _
    rw [readPlain?_whole (List.cons_ne_nil _ _) hdigits, hn]
    rfl
  | cons d rest =>
    show readPlain? ([c] ++ '.' :: d :: rest) = _
    rw [readPlain?_fraction (List.cons_ne_nil c []) (List.cons_ne_nil d rest) hdigits,
      List.singleton_append, hn, List.length_cons, List.length_cons, List.length_cons]
    congr 2

theorem mem_pointed {c : Char} {n : ℕ} (h : c ∈ pointed (Nat.toDigits 10 n)) :
    c.isDigit = true ∨ c = '.' := by
  unfold pointed at h
  rcases List.mem_append.1 h with h | h
  · exact .inl (isDigit_of_mem_toDigits (List.mem_of_mem_take h))
  · split at h
    · cases h
    · rename_i hrest
      rcases List.mem_cons.1 h with h | h
      · exact .inr h
      · exact .inl (isDigit_of_mem_toDigits (List.mem_of_mem_drop h))

/-- Neither a digit nor a point is the letter before an exponent. -/
theorem e_notMem {cs : List Char} (h : ∀ c ∈ cs, c.isDigit = true ∨ c = '.') :
    'e' ∉ cs := by
  intro hmem
  rcases h 'e' hmem with h | h
  · cases h
  · cases h

theorem readMagnitude?_scientific (plus : Bool) (n : ℕ) (lead : ℤ) :
    readMagnitude? (scientific plus (Nat.toDigits 10 n) lead) =
      some ⟨n, 1 - (Nat.toDigits 10 n).length + lead⟩ := by
  have hplain : 'e' ∉ pointed (Nat.toDigits 10 n) := e_notMem fun c => mem_pointed
  unfold readMagnitude?
  rw [scientific_eq, cut_append hplain]
  dsimp only
  rw [readPlain?_pointed, Option.bind_some, readSigned?_exponentSign]
  rfl

/-- Every text is read as the number it was written for. -/
theorem readMagnitude?_magnitude (layout : Layout) (D : Digits) :
    ∃ d, readMagnitude? (layout.magnitude D) = some d ∧ d.value = D.value := by
  unfold magnitude
  split
  · rename_i hzero
    refine ⟨⟨0, -1⟩, rfl, ?_⟩
    unfold Digits.value
    rw [hzero]
    simp
  dsimp only
  split
  · have hplain : 'e' ∉ positional (Nat.toDigits 10 D.digits) D.exponent :=
      e_notMem fun c => mem_positional
    rw [readMagnitude?_of_plain hplain]
    rcases lt_or_ge D.exponent 0 with hneg | hnonneg
    · exact ⟨_, readPlain?_positional_fraction _ hneg, rfl⟩
    · refine ⟨_, readPlain?_positional_whole _ hnonneg, ?_⟩
      have hpow : (10 : ℚ) ^ D.exponent = 10 ^ D.exponent.toNat := by
        rw [← zpow_natCast, Int.toNat_of_nonneg hnonneg]
      unfold Digits.value
      rw [hpow]
      push_cast
      norm_num
      ring
  · refine ⟨_, readMagnitude?_scientific _ _ _, ?_⟩
    unfold Digits.value
    dsimp only
    congr 2
    omega

/-! ## Characters -/

/-- What number text without plus signs consists of. -/
def IsNumberChar (c : Char) : Prop := c.isAlphanum = true ∨ c = '-' ∨ c = '.'

theorem isNumberChar_of_isDigit {c : Char} (h : c.isDigit = true) : IsNumberChar c := by
  refine .inl ?_
  rw [Char.isAlphanum, h, Bool.or_true]

theorem mem_scientific {c : Char} {n : ℕ} {lead : ℤ}
    (h : c ∈ scientific false (Nat.toDigits 10 n) lead) : IsNumberChar c := by
  rw [scientific_eq, List.mem_append, List.mem_cons, List.mem_append] at h
  rcases h with h | rfl | h | h
  · rcases mem_pointed h with h | h
    · exact isNumberChar_of_isDigit h
    · exact .inr (.inr h)
  · exact .inl rfl
  · unfold exponentSign at h
    split at h
    · exact .inr (.inl (List.mem_singleton.1 h))
    · cases h
  · exact isNumberChar_of_isDigit (isDigit_of_mem_toDigits h)

theorem mem_magnitude {layout : Layout} (hplus : layout.plus = false) {c : Char}
    (h : c ∈ layout.magnitude D) : IsNumberChar c := by
  unfold magnitude at h
  split at h
  · simp only [List.mem_cons, List.not_mem_nil, or_false] at h
    rcases h with rfl | rfl | rfl
    · exact isNumberChar_of_isDigit rfl
    · exact .inr (.inr rfl)
    · exact isNumberChar_of_isDigit rfl
  · dsimp only at h
    split at h
    · rcases mem_positional h with h | h
      · exact isNumberChar_of_isDigit h
      · exact .inr (.inr h)
    · rw [hplus] at h
      exact mem_scientific h

theorem mem_signed {negative : Bool} {cs : List Char} (hcs : ∀ c ∈ cs, IsNumberChar c) {c : Char}
    (h : c ∈ (signed negative cs).toList) : IsNumberChar c := by
  unfold signed at h
  rw [String.toList_ofList] at h
  split at h
  · rcases List.mem_cons.1 h with h | h
    · exact .inr (.inl h)
    · exact hcs c h
  · exact hcs c h

theorem mem_write {layout : Layout} (hplus : layout.plus = false) {x : Float} {c : Char}
    (h : c ∈ (layout.write x).toList) : IsNumberChar c := by
  unfold write at h
  split at h
  · have hletters : ['N', 'a', 'N'].all Char.isAlphanum = true := rfl
    exact .inl (List.all_eq_true.1 hletters c h)
  · have hletters : ['i', 'n', 'f'].all Char.isAlphanum = true := rfl
    exact mem_signed (fun c hc => .inl (List.all_eq_true.1 hletters c hc)) h
  · exact mem_signed (fun c hc => mem_magnitude hplus hc) h

end Layout

/-! ## Doubles -/

theorem Digits.value_eq (d : Digits) :
    d.value = (d.digits * tenTo d.exponent.toNat : ℕ) / (tenTo (-d.exponent).toNat : ℕ) := by
  have hpos : ((tenTo (-d.exponent).toNat : ℕ) : ℚ) ≠ 0 :=
    Nat.cast_ne_zero.2 (tenTo_pos _).ne'
  rw [eq_div_iff hpos, value, tenTo_eq, tenTo_eq]
  push_cast
  rw [pow_toNat (by norm_num) d.exponent]
  ring

theorem Digits.nearest_of_contains {v : Magnitude} (hv : v.Canonical) {d : Digits}
    (h : v.Contains d.value) : d.nearest = v.index := by
  rw [Digits.value_eq] at h
  exact Magnitude.nearestIndex_of_contains hv (tenTo_pos _) h

theorem readDouble?_signed {negative : Bool} {cs : List Char} {d : Digits}
    (h : readMagnitude? cs = some d) :
    readDouble? (Layout.signed negative cs).toList = some (ofIndex negative d.nearest) := by
  have hread : readUnsigned? negative cs = some (ofIndex negative d.nearest) := by
    unfold readUnsigned?
    rw [if_neg, h]
    · rfl
    · rintro rfl
      rw [readMagnitude?_eq_none rfl] at h
      cases h
  unfold Layout.signed
  cases negative with
  | true =>
    rw [if_pos rfl, String.toList_ofList]
    exact hread
  | false =>
    rw [if_neg Bool.false_ne_true, String.toList_ofList]
    unfold readDouble?
    split
    · rw [readMagnitude?_eq_none rfl] at h
      cases h
    · rw [if_neg, hread]
      rintro rfl
      rw [readMagnitude?_eq_none rfl] at h
      cases h

/-- The text of a double stands for that double. -/
theorem readDouble?_write (layout : Layout) (x : Float) :
    readDouble? (layout.write x).toList = some x := by
  unfold Layout.write
  split
  · rename_i hnan
    rw [eq_nan hnan]
    rfl
  · rename_i negative hinfinite
    rw [← ofIndex_infinity hinfinite]
    cases negative <;> rfl
  · rename_i negative v hfinite
    obtain ⟨hv, hx⟩ := ofIndex_index hfinite
    obtain ⟨d, hd, hvalue⟩ := layout.readMagnitude?_magnitude (v.shortest layout.tie)
    have hcontains : v.Contains d.value := by
      rw [hvalue]
      exact Magnitude.contains_shortest hv layout.tie
    rw [readDouble?_signed hd, Digits.nearest_of_contains hv hcontains, hx]

-- A text that is written for no double is rounded, here to the even one of two neighbours.
example : readDouble? "9007199254740993".toList = some 9007199254740992 := by decide +kernel

end Coordination.Decimal
