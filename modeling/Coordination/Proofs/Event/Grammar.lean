import Mathlib.Algebra.Group.Int.Defs
import Mathlib.Algebra.Group.Nat.Defs
import Coordination.Proofs.Event.Canonical

/-!
# The grammar of payloads

An id is written as digits with at most one sign before them and any blanks around (`WritesId`),
a pair as an id, a bar and a text (`SplitsAt`). Exactly what is so written, with an id of 64 bits,
is read (`payload_grammar`), and what cannot be read is refused with the part of the payload that
is at fault: all of it if there is no bar where one is needed, otherwise the part that should be
an id.
-/

namespace Coordination

/-! ## Numerals -/

namespace Text

/-- One or more of the ten digits. -/
def IsDigits (ds : List Char) : Prop := ds ≠ [] ∧ ∀ d ∈ ds, '0' ≤ d ∧ d ≤ '9'

/-- The number that digits stand for by their places. -/
def placeValue : List Char → ℕ
  | [] => 0
  | d :: ds => (d.toNat - '0'.toNat) * 10 ^ ds.length + placeValue ds

/-- Digits with at most one sign before them, and the integer that they stand for. -/
inductive Denotes : List Char → ℤ → Prop where
  | plain {ds : List Char} : IsDigits ds → Denotes ds (placeValue ds)
  | plus {ds : List Char} : IsDigits ds → Denotes ('+' :: ds) (placeValue ds)
  | minus {ds : List Char} : IsDigits ds → Denotes ('-' :: ds) (-placeValue ds)

theorem isDigit_iff {c : Char} : c.isDigit = true ↔ '0' ≤ c ∧ c ≤ '9' := by
  simp [Char.isDigit, Char.le_def]

theorem ofDigitChars_eq (ds : List Char) (n : ℕ) :
    Nat.ofDigitChars 10 ds n = n * 10 ^ ds.length + placeValue ds := by
  induction ds generalizing n with
  | nil => simp [placeValue]
  | cons d ds ih =>
    rw [Nat.ofDigitChars_cons, ih, placeValue, List.length_cons, Nat.pow_succ', Nat.add_mul,
      Nat.mul_comm 10 n, Nat.mul_assoc, Nat.add_assoc]

theorem readDigits?_eq_some_iff {ds : List Char} {n : ℕ} :
    readDigits? ds = some n ↔ IsDigits ds ∧ placeValue ds = n := by
  have hall : ds.all Char.isDigit = true ↔ ∀ d ∈ ds, '0' ≤ d ∧ d ≤ '9' := by
    rw [List.all_eq_true]
    exact forall₂_congr fun d _ => isDigit_iff
  rw [readDigits?, ofDigitChars_eq, Nat.zero_mul, Nat.zero_add]
  by_cases h : IsDigits ds
  · rw [if_pos ⟨h.1, hall.2 h.2⟩, Option.some_inj]
    exact (and_iff_right h).symm
  · rw [if_neg fun hc => h ⟨hc.1, hall.1 hc.2⟩]
    simp [h]

theorem readSigned?_eq_some_iff {cs : List Char} {n : ℤ} :
    readSigned? cs = some n ↔ Denotes cs n := by
  constructor
  · intro h
    obtain ⟨ds, m, hm, hcs⟩ := readSigned?_cases h
    obtain ⟨hdigits, rfl⟩ := readDigits?_eq_some_iff.1 hm
    rcases hcs with ⟨rfl, rfl⟩ | ⟨rfl, rfl⟩ | ⟨rfl, rfl⟩
    · exact .plain hdigits
    · exact .plus hdigits
    · exact .minus hdigits
  · rintro (hdigits | hdigits | hdigits)
    · exact readSigned?_of_readDigits? (readDigits?_eq_some_iff.2 ⟨hdigits, rfl⟩)
    · rw [readSigned?, readDigits?_eq_some_iff.2 ⟨hdigits, rfl⟩]
      rfl
    · rw [readSigned?, readDigits?_eq_some_iff.2 ⟨hdigits, rfl⟩]
      rfl

theorem readInt64?_eq_some_iff {cs : List Char} {id : Int64} :
    readInt64? cs = some id ↔ Denotes cs id.toInt := by
  rw [← readSigned?_eq_some_iff]
  constructor
  · exact readSigned?_of_readInt64?
  · intro h
    rw [readInt64?, h, Option.bind_some, if_pos ⟨id.minValue_le_toInt, id.toInt_le⟩,
      Int64.ofInt_toInt]

theorem exists_readInt64?_iff {cs : List Char} :
    (∃ id, readInt64? cs = some id) ↔ ∃ n, Denotes cs n ∧ -2 ^ 63 ≤ n ∧ n ≤ 2 ^ 63 - 1 := by
  constructor
  · rintro ⟨id, hid⟩
    exact ⟨id.toInt, readInt64?_eq_some_iff.1 hid, id.minValue_le_toInt, id.toInt_le⟩
  · rintro ⟨n, hn, hlow, hhigh⟩
    refine ⟨Int64.ofInt n, readInt64?_eq_some_iff.2 ?_⟩
    rwa [Int64.toInt_ofInt_of_le hlow (Int.lt_add_one_of_le hhigh)]

/-! ## Blanks around a numeral -/

theorem dropWhile_blank_append {before rest : List Char} (hbefore : ∀ c ∈ before, isBlank c = true)
    (hrest : ∀ c ∈ rest.head?, isBlank c = false) :
    (before ++ rest).dropWhile isBlank = rest := by
  rw [List.dropWhile_append_of_pos hbefore]
  cases rest with
  | nil => rfl
  | cons c rest => rw [List.dropWhile_cons_of_neg (by simp [hrest c rfl])]

/-- Blanks around a text without blanks are what is trimmed. -/
theorem trim_append {before cs after : List Char} (hbefore : ∀ c ∈ before, isBlank c = true)
    (hafter : ∀ c ∈ after, isBlank c = true) (hne : cs ≠ []) (hcs : ∀ c ∈ cs, isBlank c = false) :
    trim (before ++ cs ++ after) = cs := by
  have hstart : trimStart (before ++ cs ++ after) = cs ++ after := by
    rw [trimStart, List.append_assoc]
    refine dropWhile_blank_append hbefore fun c hc => ?_
    rw [List.head?_append_of_ne_nil _ hne] at hc
    exact hcs c (List.mem_of_mem_head? hc)
  have hend : trimEnd (cs ++ after) = cs := by
    rw [trimEnd, List.reverse_append, dropWhile_blank_append, List.reverse_reverse]
    · exact fun c hc => hafter c (List.mem_reverse.1 hc)
    · exact fun c hc => hcs c (List.mem_reverse.1 (List.mem_of_mem_head? hc))
  rw [trim, hstart, hend]

theorem exists_trim_eq (cs : List Char) : ∃ before after, cs = before ++ trim cs ++ after ∧
    (∀ c ∈ before, isBlank c = true) ∧ ∀ c ∈ after, isBlank c = true := by
  have hend (l : List Char) : l = trimEnd l ++ (l.reverse.takeWhile isBlank).reverse := by
    rw [trimEnd, ← List.reverse_append, List.takeWhile_append_dropWhile, List.reverse_reverse]
  refine ⟨cs.takeWhile isBlank, ((trimStart cs).reverse.takeWhile isBlank).reverse, ?_, ?_, ?_⟩
  · rw [List.append_assoc, trim, ← hend, trimStart, List.takeWhile_append_dropWhile]
  · exact fun c hc => List.mem_takeWhile_imp hc
  · exact fun c hc => List.mem_takeWhile_imp (List.mem_reverse.1 hc)

theorem Denotes.ne_nil {cs : List Char} {n : ℤ} (h : Denotes cs n) : cs ≠ [] := by
  rcases h with hdigits | hdigits | hdigits
  · exact hdigits.1
  · exact List.cons_ne_nil _ _
  · exact List.cons_ne_nil _ _

theorem Denotes.not_blank {cs : List Char} {n : ℤ} (h : Denotes cs n) :
    ∀ c ∈ cs, isBlank c = false := by
  have hdigit {ds : List Char} (hdigits : IsDigits ds) : ∀ c ∈ ds, isBlank c = false := by
    intro c hc
    apply isBlank_of_isNumeral
    rw [isNumeral, isDigit_iff.2 (hdigits.2 c hc), Bool.true_or]
  rcases h with hdigits | hdigits | hdigits
  · exact hdigit hdigits
  · exact List.forall_mem_cons.2 ⟨rfl, hdigit hdigits⟩
  · exact List.forall_mem_cons.2 ⟨rfl, hdigit hdigits⟩

end Text

/-! ## Payloads -/

theorem map_eq_ok_iff {ε α β : Type} {f : α → β} {x : Except ε α} {b : β} :
    x.map f = .ok b ↔ ∃ a, x = .ok a ∧ f a = b := by
  constructor
  · exact exists_of_map_eq_ok
  · rintro ⟨a, rfl, rfl⟩
    rfl

theorem map_eq_error_iff {ε α β : Type} {f : α → β} {x : Except ε α} {e : ε} :
    x.map f = .error e ↔ x = .error e := by
  cases x <;> simp [Except.map]

namespace Payload

/-- The payload is a numeral of the integer, with nothing but blanks around it. -/
def WritesId (payload : String) (n : ℤ) : Prop :=
  ∃ before numeral after, payload.toList = before ++ numeral ++ after ∧
    (∀ c ∈ before, Text.isBlank c = true) ∧ (∀ c ∈ after, Text.isBlank c = true) ∧
    Text.Denotes numeral n

/-- The payload is a numeral of an integer of 64 bits. -/
def IsId (payload : String) : Prop := ∃ n, WritesId payload n ∧ -2 ^ 63 ≤ n ∧ n ≤ 2 ^ 63 - 1

/-- The payload's first bar stands between the two texts. -/
def SplitsAt (payload before after : String) : Prop :=
  payload = before ++ "|" ++ after ∧ '|' ∉ before.toList

section

variable {payload before after text : String} {id : Int64} {e : PayloadError}

theorem writesId_iff {n : ℤ} : WritesId payload n ↔ Text.Denotes (Text.trim payload.toList) n := by
  constructor
  · rintro ⟨before, numeral, after, hpayload, hbefore, hafter, hnumeral⟩
    rwa [hpayload, Text.trim_append hbefore hafter hnumeral.ne_nil hnumeral.not_blank]
  · intro h
    obtain ⟨before, after, hpayload, hbefore, hafter⟩ := Text.exists_trim_eq payload.toList
    exact ⟨before, _, after, hpayload, hbefore, hafter, h⟩

theorem parseId_eq_ok_iff : parseId payload = .ok id ↔ WritesId payload id.toInt := by
  rw [writesId_iff, ← Text.readInt64?_eq_some_iff]
  constructor
  · exact readInt64?_of_parseId
  · intro h
    rw [parseId, h]

theorem isId_iff : IsId payload ↔ ∃ id, parseId payload = .ok id := by
  simp only [IsId, writesId_iff, parseId_eq_ok_iff, ← Text.exists_readInt64?_iff,
    Text.readInt64?_eq_some_iff]

theorem parseId_eq_error_iff :
    parseId payload = .error e ↔ ¬ IsId payload ∧ e = .invalidId payload := by
  rw [isId_iff, parseId]
  cases Text.readInt64? (Text.trim payload.toList) with
  | none => simp [eq_comm]
  | some id => simp

theorem exists_splitsAt (h : '|' ∈ payload.toList) : ∃ before after, SplitsAt payload before after := by
  obtain ⟨before, after, hpayload, hbar⟩ := List.eq_append_cons_of_mem h
  refine ⟨String.ofList before, String.ofList after, ?_, by rwa [String.toList_ofList]⟩
  rw [← String.toList_inj, hpayload]
  simp

theorem SplitsAt.splitBar? (h : SplitsAt payload before after) :
    Payload.splitBar? payload = some (before, after) := by
  obtain ⟨rfl, hbar⟩ := h
  refine splitBar?_append ?_ after
  rintro c hc rfl
  exact hbar hc

theorem SplitsAt.parsePair (h : SplitsAt payload before after) :
    Payload.parsePair payload = (parseId before).map (·, after) := by
  rw [Payload.parsePair, h.splitBar?]

theorem parsePair_of_notMem (h : '|' ∉ payload.toList) :
    parsePair payload = .error (.missingSeparator payload) := by
  have hall : ∀ c ∈ payload.toList, decide (c ≠ '|') = true := by
    intro c hc
    rw [decide_eq_true_eq]
    rintro rfl
    exact h hc
  rw [parsePair, splitBar?_eq_none (List.dropWhile_eq_nil_iff.2 hall)]

theorem parsePair_eq_ok_iff : parsePair payload = .ok (id, text) ↔
    ∃ before, SplitsAt payload before text ∧ WritesId before id.toInt := by
  simp only [← parseId_eq_ok_iff]
  constructor
  · intro h
    by_cases hbar : '|' ∈ payload.toList
    · obtain ⟨before, after, hsplit⟩ := exists_splitsAt hbar
      rw [hsplit.parsePair, map_eq_ok_iff] at h
      obtain ⟨n, hn, hpair⟩ := h
      obtain ⟨rfl, rfl⟩ := Prod.mk.inj hpair
      exact ⟨before, hsplit, hn⟩
    · rw [parsePair_of_notMem hbar] at h
      cases h
  · rintro ⟨before, hsplit, hid⟩
    rw [hsplit.parsePair, hid]
    rfl

theorem parsePair_eq_error_iff : parsePair payload = .error e ↔
    '|' ∉ payload.toList ∧ e = .missingSeparator payload ∨
    ∃ before after, SplitsAt payload before after ∧ ¬ IsId before ∧ e = .invalidId before := by
  simp only [← parseId_eq_error_iff]
  constructor
  · intro h
    by_cases hbar : '|' ∈ payload.toList
    · obtain ⟨before, after, hsplit⟩ := exists_splitsAt hbar
      rw [hsplit.parsePair, map_eq_error_iff] at h
      exact Or.inr ⟨before, after, hsplit, h⟩
    · rw [parsePair_of_notMem hbar] at h
      cases h
      exact Or.inl ⟨hbar, rfl⟩
  · rintro (⟨hbar, rfl⟩ | ⟨before, after, hsplit, hid⟩)
    · exact parsePair_of_notMem hbar
    · rwa [hsplit.parsePair, map_eq_error_iff]

end

end Payload

/-! ## Events -/

namespace Event

/-- The payload is a written form of the event, as its topic wants it. -/
def IsWrittenAs (payload : String) : Event → Prop
  | refreshStats id | announce id => Payload.WritesId payload id.toInt
  | restrict id text | notify id text =>
    ∃ before, Payload.SplitsAt payload before text ∧ Payload.WritesId before id.toInt

/-- Why the payload is no written form of any event of the topic. -/
def IsRefusedFor (payload : String) (e : PayloadError) : Topic → Prop
  | .refreshStats | .announce => ¬ Payload.IsId payload ∧ e = .invalidId payload
  | .restrict | .notify =>
    '|' ∉ payload.toList ∧ e = .missingSeparator payload ∨
    ∃ before after, Payload.SplitsAt payload before after ∧ ¬ Payload.IsId before ∧
      e = .invalidId before

variable {topic : Topic} {payload : String} {event : Event} {e : PayloadError}

theorem parse_eq_ok_iff :
    parse topic payload = .ok event ↔ event.topic = topic ∧ event.IsWrittenAs payload := by
  cases topic <;> cases event <;>
    simp [parse, map_eq_ok_iff, Event.topic, IsWrittenAs, Payload.parseId_eq_ok_iff,
      Payload.parsePair_eq_ok_iff]

theorem parse_eq_error_iff : parse topic payload = .error e ↔ IsRefusedFor payload e topic := by
  cases topic <;>
    simp [parse, map_eq_error_iff, IsRefusedFor, Payload.parseId_eq_error_iff,
      Payload.parsePair_eq_error_iff]

open Payload in
/-- Payloads are read by a grammar. An id is a numeral of an integer of 64 bits with blanks around
it, and every other payload is refused as it is. A pair is an id, the payload's first bar and the
text after it; a payload without a bar is refused as it is, and one without an id before its first
bar is refused with what stands there. Events are read and refused as their topics have ids or
pairs for payloads. -/
theorem payload_grammar :
    (∀ payload id, parseId payload = .ok id ↔ WritesId payload id.toInt) ∧
    (∀ payload e, parseId payload = .error e ↔ ¬ IsId payload ∧ e = .invalidId payload) ∧
    (∀ payload id text, parsePair payload = .ok (id, text) ↔
      ∃ before, SplitsAt payload before text ∧ WritesId before id.toInt) ∧
    (∀ payload e, parsePair payload = .error e ↔
      '|' ∉ payload.toList ∧ e = .missingSeparator payload ∨
      ∃ before after, SplitsAt payload before after ∧ ¬ IsId before ∧ e = .invalidId before) ∧
    (∀ topic payload event, parse topic payload = .ok event ↔
      event.topic = topic ∧ event.IsWrittenAs payload) ∧
    ∀ topic payload e, parse topic payload = .error e ↔ IsRefusedFor payload e topic :=
  ⟨fun _ _ => parseId_eq_ok_iff, fun _ _ => parseId_eq_error_iff,
    fun _ _ _ => parsePair_eq_ok_iff, fun _ _ => parsePair_eq_error_iff,
    fun _ _ _ => parse_eq_ok_iff, fun _ _ _ => parse_eq_error_iff⟩

/-- The least id with zeros and blanks around it. -/
example : Payload.parseId "\u2003-0009223372036854775808\n" = .ok Int64.minValue := by
  decide +kernel

end Event

end Coordination
