import Coordination.Proofs.Event.RoundTrip
import Mathlib.Data.List.DropRight

/-!
# Canonical payloads

Payloads are read more liberally than they are written: blanks around the id, a plus sign and
zeros in front of it are passed over. What is read is the id before the first bar and everything
from this bar on (`parse_eq_ok`), and what is written for it is the plain numeral of the id,
followed by the same rest. Hence each payload that can be read has one canonical form, which is
read as the same event, and the canonical payloads are those that are written
(`payload_round_trip`).
-/

namespace Coordination

/-! ## Plain numerals -/

namespace Text

/-- Digits with no zero in front, or a zero alone. -/
def isPlainDigits : List Char → Bool
  | [] => false
  | c :: cs => (c :: cs).all Char.isDigit && (c != '0' || cs.isEmpty)

/-- An integer's numeral with no plus sign, no zero in front and no minus sign at a zero. -/
def isPlainNumeral : List Char → Bool
  | '-' :: cs => isPlainDigits cs && cs != ['0']
  | cs => isPlainDigits cs

theorem digitChar_of_isDigit {c : Char} (h : c.isDigit = true) :
    Nat.digitChar (c.toNat - 48) = c := by
  have := toNat_of_isDigit h
  apply Char.toNat_inj.1
  rw [Nat.toNat_digitChar_of_lt_ten (by omega)]
  omega

/-- One digit is the numeral of its value. -/
theorem toDigits_of_isDigit {c : Char} (h : c.isDigit = true) :
    Nat.toDigits 10 (c.toNat - 48) = [c] := by
  have := toNat_of_isDigit h
  rw [Nat.toDigits_of_lt_base (by omega), digitChar_of_isDigit h]

/-- Behind a number that is not zero, further digits are written as they are. -/
theorem toDigits_append {n : Nat} (hn : 0 < n) {cs : List Char} (h : cs.all Char.isDigit) :
    Nat.toDigits 10 n ++ cs = Nat.toDigits 10 (Nat.ofDigitChars 10 cs n) := by
  induction cs generalizing n with
  | nil => rw [List.append_nil, Nat.ofDigitChars_nil]
  | cons c cs ih =>
    obtain ⟨hc, hcs⟩ : c.isDigit = true ∧ cs.all Char.isDigit := by simpa using h
    have hbounds := toNat_of_isDigit hc
    have hnext : Nat.toDigits 10 n ++ [c] = Nat.toDigits 10 (10 * n + (c.toNat - 48)) := by
      rw [← Nat.toDigits_append_toDigits (by decide) hn (by omega), toDigits_of_isDigit hc]
    rw [List.append_cons, hnext, ih (by omega) hcs]
    rfl

theorem eq_toDigits_of_isPlainDigits {cs : List Char} {n : Nat} (h : isPlainDigits cs)
    (hread : readDigits? cs = some n) : cs = Nat.toDigits 10 n := by
  cases cs with
  | nil => cases h
  | cons c cs =>
    rw [isPlainDigits, Bool.and_eq_true] at h
    obtain ⟨hall, hfront⟩ := h
    obtain rfl : Nat.ofDigitChars 10 (c :: cs) 0 = n := by simpa [readDigits?, hall] using hread
    obtain ⟨hc, hcs⟩ : c.isDigit = true ∧ cs.all Char.isDigit := by simpa using hall
    have hvalue : Nat.ofDigitChars 10 (c :: cs) 0 = Nat.ofDigitChars 10 cs (c.toNat - 48) := by
      rw [Nat.ofDigitChars_cons, Nat.mul_zero, Nat.zero_add]
      rfl
    rw [hvalue]
    rcases Nat.eq_zero_or_pos (c.toNat - 48) with hzero | hpos
    · have hc0 : c = '0' := by
        rw [← digitChar_of_isDigit hc, hzero]
        rfl
      have hnil : cs = [] := by simpa [hc0] using hfront
      rw [hnil, Nat.ofDigitChars_nil, toDigits_of_isDigit hc]
    · rw [← toDigits_append hpos hcs, toDigits_of_isDigit hc]
      rfl

theorem head_toDigits_ne {n : Nat} (hn : 0 < n) : (Nat.toDigits 10 n).head? ≠ some '0' := by
  induction n using Nat.strongRecOn with
  | ind n ih =>
    by_cases hlt : n < 10
    · rw [Nat.toDigits_of_lt_base hlt, List.head?_cons, ne_eq, Option.some_inj]
      intro hzero
      have := Nat.toNat_digitChar_of_lt_ten hlt
      rw [hzero] at this
      have h48 : '0'.toNat = 48 := rfl
      omega
    · rw [Nat.toDigits_of_base_le (by decide) (by omega),
        List.head?_append_of_ne_nil _ Nat.toDigits_ne_nil]
      exact ih (n / 10) (by omega) (by omega)

theorem isPlainDigits_toDigits (n : Nat) : isPlainDigits (Nat.toDigits 10 n) := by
  have hall : (Nat.toDigits 10 n).all Char.isDigit := by
    rw [List.all_eq_true]
    exact fun c hc => Nat.isDigit_of_mem_toDigits (by decide) (by decide) hc
  rcases Nat.eq_zero_or_pos n with rfl | hn
  · rfl
  · have hhead := head_toDigits_ne hn
    cases hd : Nat.toDigits 10 n with
    | nil => exact absurd hd Nat.toDigits_ne_nil
    | cons c cs =>
      rw [hd] at hall hhead
      have hc : c ≠ '0' := by simpa using hhead
      simp [isPlainDigits, hc, hall]

theorem isPlainNumeral_of_isPlainDigits {cs : List Char} (h : isPlainDigits cs) :
    isPlainNumeral cs := by
  unfold isPlainNumeral
  split
  · simp [isPlainDigits] at h
  · exact h

/-- What is written for an integer is plain. -/
theorem isPlainNumeral_toString (n : Int) : isPlainNumeral (toString n).toList := by
  cases n with
  | ofNat m =>
    rw [toList_toString_ofNat]
    exact isPlainNumeral_of_isPlainDigits (isPlainDigits_toDigits m)
  | negSucc m =>
    have hne : Nat.toDigits 10 (m + 1) ≠ ['0'] := by
      intro h
      exact head_toDigits_ne (Nat.succ_pos m) (by rw [h]; rfl)
    rw [toList_toString_negSucc]
    simp [isPlainNumeral, isPlainDigits_toDigits, hne]

theorem isDigit_of_readDigits? {cs : List Char} {n : Nat} (h : readDigits? cs = some n) :
    ∀ c ∈ cs, c.isDigit = true := by
  unfold readDigits? at h
  split at h
  · rename_i hall
    exact List.all_eq_true.1 hall.2
  · cases h

/-- A numeral that is read is a row of digits, perhaps behind a sign. -/
theorem readSigned?_cases {cs : List Char} {n : Int} (h : readSigned? cs = some n) :
    ∃ ds m, readDigits? ds = some m ∧
      (cs = ds ∧ (m : Int) = n ∨ cs = '+' :: ds ∧ (m : Int) = n ∨ cs = '-' :: ds ∧ -(m : Int) = n) := by
  unfold readSigned? at h
  split at h
  · obtain ⟨m, hm, hn⟩ : ∃ m : Nat, readDigits? _ = some m ∧ (m : Int) = n := by
      simpa [Option.bind_eq_some_iff] using h
    exact ⟨_, m, hm, .inr (.inl ⟨rfl, hn⟩)⟩
  · obtain ⟨m, hm, hn⟩ : ∃ m : Nat, readDigits? _ = some m ∧ -(m : Int) = n := by
      simpa [Option.bind_eq_some_iff] using h
    exact ⟨_, m, hm, .inr (.inr ⟨rfl, hn⟩)⟩
  · obtain ⟨m, hm, hn⟩ : ∃ m : Nat, readDigits? cs = some m ∧ (m : Int) = n := by
      simpa [Option.bind_eq_some_iff] using h
    exact ⟨_, m, hm, .inl ⟨rfl, hn⟩⟩

/-- A plain numeral is what is written for its value. -/
theorem eq_toString_of_isPlainNumeral {cs : List Char} {n : Int} (h : isPlainNumeral cs)
    (hread : readSigned? cs = some n) : cs = (toString n).toList := by
  obtain ⟨ds, m, hm, ⟨rfl, rfl⟩ | ⟨rfl, rfl⟩ | ⟨rfl, rfl⟩⟩ := readSigned?_cases hread
  · have hplain : isPlainDigits cs := by
      unfold isPlainNumeral at h
      split at h
      · exact absurd (isDigit_of_readDigits? hm '-' List.mem_cons_self) (by decide)
      · exact h
    show cs = (toString (Int.ofNat m)).toList
    rw [toList_toString_ofNat, ← eq_toDigits_of_isPlainDigits hplain hm]
  · simp [isPlainNumeral, isPlainDigits] at h
  · obtain ⟨hplain, hne⟩ : isPlainDigits ds ∧ ds ≠ ['0'] := by
      simpa [isPlainNumeral] using h
    have hdigits := eq_toDigits_of_isPlainDigits hplain hm
    cases m with
    | zero => exact absurd hdigits hne
    | succ k =>
      show '-' :: ds = (toString (Int.negSucc k)).toList
      rw [toList_toString_negSucc, hdigits]

theorem isNumeral_of_isPlainNumeral {cs : List Char} (h : isPlainNumeral cs) :
    ∀ c ∈ cs, isNumeral c := by
  have hdigits : ∀ ds : List Char, isPlainDigits ds → ∀ c ∈ ds, isNumeral c := by
    intro ds hds c hc
    cases ds with
    | nil => cases hc
    | cons d ds =>
      rw [isPlainDigits, Bool.and_eq_true, List.all_eq_true] at hds
      rw [isNumeral, hds.1 c hc, Bool.true_or]
  unfold isPlainNumeral at h
  split at h
  · rename_i ds
    rw [Bool.and_eq_true] at h
    exact List.forall_mem_cons.2 ⟨rfl, hdigits ds h.1⟩
  · exact hdigits cs h

/-! ## What a numeral that can be read does not hold -/

/-- Only blanks are trimmed. -/
theorem mem_trim {cs : List Char} {c : Char} (h : c ∈ cs) (hc : isBlank c = false) :
    c ∈ trim cs := by
  have hdrop : ∀ l : List Char, c ∈ l → c ∈ l.dropWhile isBlank := by
    intro l hl
    rw [← List.takeWhile_append_dropWhile (p := isBlank) (l := l), List.mem_append] at hl
    refine hl.resolve_left fun htake => ?_
    rw [List.mem_takeWhile_imp htake] at hc
    cases hc
  rw [trim, trimEnd, List.mem_reverse]
  exact hdrop _ (List.mem_reverse.2 (hdrop cs h))

theorem bar_not_mem_of_readSigned? {cs : List Char} {n : Int} (h : readSigned? cs = some n) :
    '|' ∉ cs := by
  obtain ⟨ds, m, hm, hcs⟩ := readSigned?_cases h
  have hdigits : '|' ∉ ds := fun hbar => absurd (isDigit_of_readDigits? hm _ hbar) (by decide)
  rcases hcs with ⟨rfl, -⟩ | ⟨rfl, -⟩ | ⟨rfl, -⟩ <;> simpa using hdigits

theorem readSigned?_of_readInt64? {cs : List Char} {id : Int64} (h : readInt64? cs = some id) :
    readSigned? cs = some id.toInt := by
  obtain ⟨n, hn, hid⟩ := Option.bind_eq_some_iff.1 h
  split at hid
  · rename_i hbounds
    rw [hn, ← Option.some.inj hid,
      Int64.toInt_ofInt_of_le hbounds.1 (Int.lt_add_one_of_le hbounds.2)]
  · cases hid

end Text

/-! ## The two parts of a payload -/

namespace Payload

/-- The part of a payload that holds the id. -/
def idPart (payload : String) : List Char := payload.toList.takeWhile (· ≠ '|')

/-- The first bar of a payload and the text behind it. -/
def rest (payload : String) : List Char := payload.toList.dropWhile (· ≠ '|')

/-- Whether the id is written as a plain numeral. -/
def isCanonical (payload : String) : Bool := Text.isPlainNumeral (idPart payload)

theorem idPart_append_rest (payload : String) : idPart payload ++ rest payload = payload.toList :=
  List.takeWhile_append_dropWhile

theorem readInt64?_of_parseId {payload : String} {id : Int64} (h : parseId payload = .ok id) :
    Text.readInt64? (Text.trim payload.toList) = some id := by
  unfold parseId at h
  split at h
  · rename_i n hn
    rw [hn, Except.ok.inj h]
  · cases h

/-- An id takes up its whole payload. -/
theorem parseId_eq_ok {payload : String} {id : Int64} (h : parseId payload = .ok id) :
    Text.readInt64? (Text.trim (idPart payload)) = some id ∧ rest payload = [] := by
  have hread := readInt64?_of_parseId h
  have hbar : ∀ c ∈ payload.toList, decide (c ≠ '|') = true := by
    intro c hc
    rw [decide_eq_true_eq]
    rintro rfl
    exact Text.bar_not_mem_of_readSigned? (Text.readSigned?_of_readInt64? hread)
      (Text.mem_trim hc (by decide))
  have hid : idPart payload = payload.toList := List.takeWhile_eq_self_iff.2 hbar
  exact ⟨by rw [hid, hread], List.dropWhile_eq_nil_iff.2 hbar⟩

theorem splitBar?_eq_none {payload : String} (h : rest payload = []) : splitBar? payload = none := by
  unfold splitBar?
  rw [List.span_eq_takeWhile_dropWhile, show List.dropWhile _ payload.toList = _ from h]

theorem splitBar?_of_rest {payload : String} {bar : Char} {after : List Char}
    (h : rest payload = bar :: after) :
    splitBar? payload = some (String.ofList (idPart payload), String.ofList after) := by
  unfold splitBar?
  rw [List.span_eq_takeWhile_dropWhile, show List.dropWhile _ payload.toList = _ from h]
  rfl

/-- In a pair the text is what follows the first bar. -/
theorem parsePair_eq_ok {payload text : String} {id : Int64}
    (h : parsePair payload = .ok (id, text)) :
    Text.readInt64? (Text.trim (idPart payload)) = some id ∧
      rest payload = '|' :: text.toList := by
  cases hrest : rest payload with
  | nil =>
    rw [parsePair, splitBar?_eq_none hrest] at h
    cases h
  | cons bar after =>
    have hbar := List.head?_dropWhile_not (fun c => decide (c ≠ '|')) payload.toList
    rw [show List.dropWhile _ payload.toList = _ from hrest] at hbar
    obtain rfl : bar = '|' := by simpa using hbar
    rw [parsePair, splitBar?_of_rest hrest] at h
    cases hid : parseId (String.ofList (idPart payload)) with
    | error e =>
      simp only [hid] at h
      cases h
    | ok n =>
      simp only [hid] at h
      obtain ⟨rfl, rfl⟩ := Prod.mk.inj (Except.ok.inj h)
      have hread := readInt64?_of_parseId hid
      rw [String.toList_ofList] at hread
      exact ⟨hread, by rw [String.toList_ofList]⟩

/-- A payload that begins with a numeral and goes on like another payload from its bar on. -/
theorem parts_of_numeral {payload other : String} {id : Int64}
    (h : payload.toList = (toString id).toList ++ rest other) :
    idPart payload = (toString id).toList ∧ rest payload = rest other := by
  have hpos : ∀ c ∈ (toString id).toList, decide (c ≠ '|') = true := fun c hc =>
    decide_eq_true (Text.ne_bar_of_isNumeral (Text.isNumeral_toString (n := id.toInt) hc))
  have hrest : (rest other).dropWhile (· ≠ '|') = rest other := List.dropWhile_idempotent _ _
  have hid : (rest other).takeWhile (· ≠ '|') = [] := by
    have := List.takeWhile_append_dropWhile (p := fun c => decide (c ≠ '|')) (l := rest other)
    rwa [hrest, List.append_left_eq_self] at this
  rw [idPart, rest, h, List.takeWhile_append_of_pos hpos, List.dropWhile_append_of_pos hpos, hid,
    hrest, List.append_nil]
  exact ⟨rfl, rfl⟩

end Payload

/-! ## Canonical forms -/

theorem exists_of_map_eq_ok {ε α β : Type} {f : α → β} {x : Except ε α} {b : β}
    (h : x.map f = .ok b) : ∃ a, x = .ok a ∧ f a = b := by
  cases x with
  | error e => cases h
  | ok a => exact ⟨a, rfl, Except.ok.inj h⟩

namespace Event

/-- The player or the score that the event is about. -/
def subject : Event → Int64
  | refreshStats user => user
  | announce score => score
  | restrict user _ => user
  | notify user _ => user

/-- What is read is the id before the first bar and all the rest, and the rest is written again
as it was. -/
theorem parse_eq_ok {topic : Topic} {payload : String} {event : Event}
    (h : parse topic payload = .ok event) :
    event.topic = topic ∧
    Text.readInt64? (Text.trim (Payload.idPart payload)) = some event.subject ∧
    event.encode.toList = (toString event.subject).toList ++ Payload.rest payload := by
  cases topic with
  | refreshStats =>
    obtain ⟨user, huser, rfl⟩ := exists_of_map_eq_ok h
    obtain ⟨hread, hrest⟩ := Payload.parseId_eq_ok huser
    exact ⟨rfl, hread, by rw [hrest, List.append_nil]; rfl⟩
  | announce =>
    obtain ⟨score, hscore, rfl⟩ := exists_of_map_eq_ok h
    obtain ⟨hread, hrest⟩ := Payload.parseId_eq_ok hscore
    exact ⟨rfl, hread, by rw [hrest, List.append_nil]; rfl⟩
  | restrict =>
    obtain ⟨⟨user, reason⟩, hpair, rfl⟩ := exists_of_map_eq_ok h
    obtain ⟨hread, hrest⟩ := Payload.parsePair_eq_ok hpair
    exact ⟨rfl, hread, by rw [hrest]; simp [encode, Payload.encodePair, subject]⟩
  | notify =>
    obtain ⟨⟨user, message⟩, hpair, rfl⟩ := exists_of_map_eq_ok h
    obtain ⟨hread, hrest⟩ := Payload.parsePair_eq_ok hpair
    exact ⟨rfl, hread, by rw [hrest]; simp [encode, Payload.encodePair, subject]⟩

/-- Reads a payload and writes what was read. -/
def recode (topic : Topic) (payload : String) : Except PayloadError String :=
  (parse topic payload).map encode

section

variable {topic : Topic} {payload : String} {event : Event}

theorem parse_encode_of_parse (h : parse topic payload = .ok event) :
    parse topic event.encode = .ok event := by
  rw [← (parse_eq_ok h).1]
  exact event.parse_encode

theorem isCanonical_encode (h : parse topic payload = .ok event) :
    Payload.isCanonical event.encode := by
  obtain ⟨-, -, hchars⟩ := parse_eq_ok h
  rw [Payload.isCanonical, (Payload.parts_of_numeral hchars).1]
  exact Text.isPlainNumeral_toString event.subject.toInt

/-- A canonical payload is written as it was read. -/
theorem encode_eq_of_isCanonical (h : parse topic payload = .ok event)
    (hcanonical : Payload.isCanonical payload) : event.encode = payload := by
  obtain ⟨-, hread, hchars⟩ := parse_eq_ok h
  have htrim : Text.trim (Payload.idPart payload) = Payload.idPart payload :=
    Text.trim_of_isNumeral (Text.isNumeral_of_isPlainNumeral hcanonical)
  rw [htrim] at hread
  have hid := Text.eq_toString_of_isPlainNumeral hcanonical (Text.readSigned?_of_readInt64? hread)
  have hnumeral : (toString event.subject).toList = Payload.idPart payload := hid.symm
  rw [← String.toList_inj, hchars, hnumeral, Payload.idPart_append_rest]

end

/-- Events and payloads correspond. Every event is read back from what is written for it. A
payload that can be read has a canonical form, which is read as the same event, agrees with the
payload from the first bar on, and is written as it is read; and it is the payload itself if and
only if the payload's id is a plain numeral. So events of one topic differ in their payloads. -/
theorem payload_round_trip :
    (∀ event : Event, parse event.topic event.encode = .ok event) ∧
    (∀ (topic : Topic) (payload : String) (event : Event), parse topic payload = .ok event →
      parse topic event.encode = .ok event ∧
      Payload.isCanonical event.encode ∧
      Payload.rest event.encode = Payload.rest payload ∧
      recode topic event.encode = .ok event.encode ∧
      (event.encode = payload ↔ Payload.isCanonical payload)) ∧
    ∀ a b : Event, a.topic = b.topic → a.encode = b.encode → a = b := by
  refine ⟨parse_encode, ?_, ?_⟩
  · intro topic payload event h
    have hagain := parse_encode_of_parse h
    have hcanonical := isCanonical_encode h
    refine ⟨hagain, hcanonical, ?_, ?_, ?_, ?_⟩
    · exact (Payload.parts_of_numeral (parse_eq_ok h).2.2).2
    · rw [recode, hagain]
      rfl
    · rintro rfl
      exact hcanonical
    · exact encode_eq_of_isCanonical h
  · intro a b htopic hpayload
    have ha := a.parse_encode
    rw [htopic, hpayload, b.parse_encode] at ha
    exact (Except.ok.inj ha).symm

/-- Blanks, a plus sign, zeros and a second bar. -/
theorem payload_round_trip_liberal :
    let payload := " +007|a|b "
    parse .restrict payload = .ok (.restrict 7 "a|b ") ∧
    (restrict 7 "a|b ").encode = "7|a|b " ∧
    recode .restrict "7|a|b " = .ok "7|a|b " ∧
    Payload.rest "7|a|b " = Payload.rest payload ∧
    Payload.isCanonical "7|a|b " ∧ ¬ Payload.isCanonical payload := by
  have hread : parse .restrict " +007|a|b " = .ok (.restrict 7 "a|b ") := by decide +kernel
  have hwritten : (restrict 7 "a|b ").encode = "7|a|b " := by decide +kernel
  obtain ⟨-, hcanonical, hrest, hrecode, hiff⟩ := payload_round_trip.2.1 _ _ _ hread
  rw [hwritten] at hcanonical hrest hrecode hiff
  exact ⟨hread, hwritten, hrecode, hrest, hcanonical, fun h => absurd (hiff.2 h) (by decide)⟩

end Event

end Coordination
