import Mathlib.Algebra.Group.Nat.Defs
import Mathlib.Order.Bounds.Defs
import Coordination.Text.Utf8

/-!
# Well-formed bytes

Bytes are well-formed UTF-8 if they are sequences for characters, one after the other
(`IsWellFormed`). The sequences are exactly what characters are encoded as
(`isSequence_utf8EncodeChar`, `exists_utf8EncodeChar_of_isSequence`), so decoding accepts the
well-formed bytes and gives the one text that is encoded as them (`decodeUtf8_eq_ok_iff`,
`exists_toUTF8_iff`). All other bytes are refused, with the length of their longest well-formed
start (`exists_fault_iff`, `isGreatest_index`).
-/

namespace Coordination.Text

/-! ## The sequences of characters -/

/-- A byte that continues a character. -/
def IsTail (b : UInt8) : Prop := 0x80 ≤ b ∧ b ≤ 0xBF

/-- The bytes of one character. The bounds on second bytes keep out the longer forms of characters
that have shorter ones (after `E0` and `F0`), the surrogates (after `ED`) and everything above
`10FFFF` (after `F4`). -/
inductive IsSequence : List UInt8 → Prop where
  | one {a : UInt8} : a ≤ 0x7F → IsSequence [a]
  | two {a b : UInt8} : 0xC2 ≤ a → a ≤ 0xDF → IsTail b → IsSequence [a, b]
  | three {a b c : UInt8} : 0xE0 ≤ a → a ≤ 0xEF → IsTail b → IsTail c →
      (a = 0xE0 → 0xA0 ≤ b) → (a = 0xED → b ≤ 0x9F) → IsSequence [a, b, c]
  | four {a b c d : UInt8} : 0xF0 ≤ a → a ≤ 0xF4 → IsTail b → IsTail c → IsTail d →
      (a = 0xF0 → 0x90 ≤ b) → (a = 0xF4 → b ≤ 0x8F) → IsSequence [a, b, c, d]

/-- The bytes are those of characters, one after the other. -/
def IsWellFormed (bytes : ByteArray) : Prop :=
  ∃ sequences : List (List UInt8), (∀ s ∈ sequences, IsSequence s) ∧
    bytes = sequences.flatten.toByteArray

theorem isSequence_utf8EncodeChar (c : Char) : IsSequence (String.utf8EncodeChar c) := by
  have hscalar : c.val.toNat < 0xD800 ∨ 0xDFFF < c.val.toNat ∧ c.val.toNat < 0x110000 := c.valid
  unfold String.utf8EncodeChar
  generalize c.val.toNat = v at hscalar
  simp only
  split
  · apply IsSequence.one
    simp [UInt8.le_iff_toNat_le]
    omega
  split
  · apply IsSequence.two <;> simp [IsTail, UInt8.le_iff_toNat_le] <;> omega
  split
  · apply IsSequence.three <;> simp [IsTail, UInt8.le_iff_toNat_le, ← UInt8.toNat_inj] <;> omega
  · apply IsSequence.four <;> simp [IsTail, UInt8.le_iff_toNat_le, ← UInt8.toNat_inj] <;> omega

theorem exists_char_of_scalar {v : ℕ} (hv : v < 0xD800 ∨ 0xDFFF < v ∧ v < 0x110000) :
    ∃ c : Char, c.val.toNat = v := by
  refine ⟨⟨UInt32.ofNat v, ?_⟩, ?_⟩
  · simp [UInt32.isValidChar, Nat.isValidChar]
    omega
  · simp
    omega

/-- Every sequence is that of the character with the value that its bits make up. -/
theorem exists_utf8EncodeChar_of_isSequence {bs : List UInt8} (h : IsSequence bs) :
    ∃ c : Char, String.utf8EncodeChar c = bs := by
  unfold String.utf8EncodeChar
  cases h with
  | @one a ha =>
    simp [UInt8.le_iff_toNat_le] at ha
    obtain ⟨e, he⟩ := exists_char_of_scalar (v := a.toNat) (by omega)
    refine ⟨e, ?_⟩
    simp only [he]
    rw [if_pos (by omega), UInt8.ofNat_toNat]
  | @two a b ha ha' hb =>
    simp [IsTail, UInt8.le_iff_toNat_le] at ha ha' hb
    obtain ⟨e, he⟩ := exists_char_of_scalar
      (v := (a.toNat - 0xC0) * 64 + (b.toNat - 0x80)) (by omega)
    refine ⟨e, ?_⟩
    simp only [he]
    rw [if_neg (by omega), if_pos (by omega)]
    simp only [List.cons.injEq, ← UInt8.toNat_inj, UInt8.toNat_ofNat', and_true]
    omega
  | @three a b c ha ha' hb hc hlow hhigh =>
    simp [IsTail, UInt8.le_iff_toNat_le, ← UInt8.toNat_inj] at ha ha' hb hc hlow hhigh
    obtain ⟨e, he⟩ := exists_char_of_scalar
      (v := (a.toNat - 0xE0) * 4096 + (b.toNat - 0x80) * 64 + (c.toNat - 0x80)) (by omega)
    refine ⟨e, ?_⟩
    simp only [he]
    rw [if_neg (by omega), if_neg (by omega), if_pos (by omega)]
    simp only [List.cons.injEq, ← UInt8.toNat_inj, UInt8.toNat_ofNat', and_true]
    omega
  | @four a b c d ha ha' hb hc hd hlow hhigh =>
    simp [IsTail, UInt8.le_iff_toNat_le, ← UInt8.toNat_inj] at ha ha' hb hc hd hlow hhigh
    obtain ⟨e, he⟩ := exists_char_of_scalar
      (v := (a.toNat - 0xF0) * 262144 + (b.toNat - 0x80) * 4096 + (c.toNat - 0x80) * 64 +
        (d.toNat - 0x80)) (by omega)
    refine ⟨e, ?_⟩
    simp only [he]
    rw [if_neg (by omega), if_neg (by omega), if_neg (by omega)]
    simp only [List.cons.injEq, ← UInt8.toNat_inj, UInt8.toNat_ofNat', and_true]
    omega

theorem exists_chars_of_isSequence {sequences : List (List UInt8)}
    (h : ∀ s ∈ sequences, IsSequence s) :
    ∃ cs : List Char, cs.flatMap String.utf8EncodeChar = sequences.flatten := by
  induction sequences with
  | nil => exact ⟨[], rfl⟩
  | cons s sequences ih =>
    obtain ⟨hs, hsequences⟩ := List.forall_mem_cons.1 h
    obtain ⟨c, rfl⟩ := exists_utf8EncodeChar_of_isSequence hs
    obtain ⟨cs, hcs⟩ := ih hsequences
    exact ⟨c :: cs, by rw [List.flatMap_cons, List.flatten_cons, hcs]⟩

theorem isWellFormed_iff (bytes : ByteArray) : IsWellFormed bytes ↔ bytes.IsValidUTF8 := by
  constructor
  · rintro ⟨sequences, hsequences, rfl⟩
    obtain ⟨cs, hcs⟩ := exists_chars_of_isSequence hsequences
    exact ⟨cs, by rw [List.utf8Encode, hcs]⟩
  · rintro ⟨cs, rfl⟩
    refine ⟨cs.map String.utf8EncodeChar, ?_, by rw [List.utf8Encode, List.flatMap_def]⟩
    intro s hs
    obtain ⟨c, -, rfl⟩ := List.mem_map.1 hs
    exact isSequence_utf8EncodeChar c

/-! ## Where the characters end -/

section

variable {bytes : ByteArray} {index n : ℕ} {c : Char}

theorem wellFormedEnd_of_some (h : bytes.utf8DecodeChar? index = some c) :
    wellFormedEnd bytes index = wellFormedEnd bytes (index + c.utf8Size) := by
  rw [wellFormedEnd.eq_def]
  split
  · rename_i d hd
    rw [h] at hd
    cases hd
    rfl
  · rename_i hnone
    rw [h] at hnone
    cases hnone

/-- A character that can be read takes up its own bytes. -/
theorem extract_of_some (h : bytes.utf8DecodeChar? index = some c) :
    bytes.extract index (index + c.utf8Size) = [c].utf8Encode := by
  have hsize := ByteArray.le_size_of_utf8DecodeChar?_eq_some h
  rw [ByteArray.utf8DecodeChar?_eq_utf8DecodeChar?_extract] at h
  rw [List.utf8Encode_singleton, String.toByteArray_utf8EncodeChar_of_utf8DecodeChar?_eq_some h,
    ByteArray.extract_extract, Nat.add_zero, Nat.min_eq_left hsize]

/-- A character is read where its bytes stand. -/
theorem utf8DecodeChar?_of_extract {cs : List Char} (hindex : index ≤ n) (hn : n ≤ bytes.size)
    (h : bytes.extract index n = [c].utf8Encode ++ cs.utf8Encode) :
    bytes.utf8DecodeChar? index = some c := by
  have hsplit : bytes.extract index bytes.size =
      [c].utf8Encode ++ (cs.utf8Encode ++ bytes.extract n bytes.size) := by
    rw [ByteArray.extract_eq_extract_append_extract n hindex hn, h, ByteArray.append_assoc]
  rw [ByteArray.utf8DecodeChar?_eq_utf8DecodeChar?_extract, hsplit,
    List.utf8DecodeChar?_utf8Encode_singleton_append]

theorem wellFormedEnd_le (h : index ≤ bytes.size) : wellFormedEnd bytes index ≤ bytes.size := by
  fun_induction wellFormedEnd bytes index with
  | case1 index c hc ih => exact ih (ByteArray.le_size_of_utf8DecodeChar?_eq_some hc)
  | case2 index hnone => exact h

theorem le_wellFormedEnd (bytes : ByteArray) (index : ℕ) : index ≤ wellFormedEnd bytes index := by
  fun_induction wellFormedEnd bytes index with
  | case1 index c hc ih => omega
  | case2 index hnone => exact Nat.le_refl index

/-- Up to their end there are whole characters. -/
theorem isValidUTF8_extract (h : index ≤ bytes.size) :
    (bytes.extract index (wellFormedEnd bytes index)).IsValidUTF8 := by
  fun_induction wellFormedEnd bytes index with
  | case1 index c hc ih =>
    have hsize := ByteArray.le_size_of_utf8DecodeChar?_eq_some hc
    rw [ByteArray.extract_eq_extract_append_extract (index + c.utf8Size) (by omega)
      (le_wellFormedEnd bytes _), extract_of_some hc]
    exact ByteArray.isValidUTF8_utf8Encode.append (ih hsize)
  | case2 index hnone =>
    rw [ByteArray.extract_same]
    exact ByteArray.isValidUTF8_empty

/-- No longer run of whole characters begins at the index. -/
theorem le_wellFormedEnd_of_isValidUTF8 (hindex : index ≤ n) (hn : n ≤ bytes.size)
    (h : (bytes.extract index n).IsValidUTF8) : n ≤ wellFormedEnd bytes index := by
  obtain ⟨cs, hcs⟩ := h
  induction cs generalizing index with
  | nil =>
    have hsize : n - index = 0 := by
      simpa [Nat.min_eq_left hn] using congrArg ByteArray.size hcs
    have := le_wellFormedEnd bytes index
    omega
  | cons c cs ih =>
    rw [List.utf8Encode_cons] at hcs
    have hc := utf8DecodeChar?_of_extract hindex hn hcs
    have hnext : index + c.utf8Size ≤ n := by
      have := congrArg ByteArray.size hcs
      simp [List.utf8Encode_singleton, Nat.min_eq_left hn] at this
      omega
    rw [wellFormedEnd_of_some hc]
    apply ih hnext
    rw [ByteArray.extract_eq_extract_append_extract (index + c.utf8Size) (by omega) hnext,
      extract_of_some hc, ByteArray.append_right_inj] at hcs
    exact hcs

end

/-! ## Decoding -/

/-- Where the fault is. -/
def Utf8Fault.index : Utf8Fault → ℕ
  | malformed _ index => index
  | unfinished index => index

theorem index_utf8FaultAt (bytes : ByteArray) (index : ℕ) :
    (utf8FaultAt bytes index).index = index := by
  unfold utf8FaultAt
  split
  · rfl
  split
  · rfl
  split <;> rfl

section

variable {bytes : ByteArray} {text : String} {fault : Utf8Fault}

theorem decodeUtf8_eq_ok_iff : decodeUtf8 bytes = .ok text ↔ text.toUTF8 = bytes := by
  constructor
  · intro h
    unfold decodeUtf8 String.fromUTF8? at h
    split at h
    · rename_i t ht
      cases h
      split at ht
      · cases ht
        rfl
      · cases ht
    · cases h
  · rintro rfl
    exact decodeUtf8_toUTF8 text

theorem exists_toUTF8_iff : (∃ text : String, text.toUTF8 = bytes) ↔ IsWellFormed bytes := by
  rw [isWellFormed_iff, ← decodeUtf8_isOk_iff]
  exact exists_congr fun _ => decodeUtf8_eq_ok_iff.symm

theorem exists_fault_iff : (∃ fault, decodeUtf8 bytes = .error fault) ↔ ¬ IsWellFormed bytes := by
  rw [isWellFormed_iff, ← decodeUtf8_isOk_iff]
  cases decodeUtf8 bytes <;> simp

/-- Bytes are refused with the length of their longest well-formed start. -/
theorem isGreatest_index (h : decodeUtf8 bytes = .error fault) :
    IsGreatest {n | n ≤ bytes.size ∧ IsWellFormed (bytes.extract 0 n)} fault.index := by
  have hindex : fault.index = wellFormedEnd bytes 0 := by
    unfold decodeUtf8 at h
    split at h
    · cases h
    · cases h
      exact index_utf8FaultAt bytes _
  rw [hindex]
  constructor
  · exact ⟨wellFormedEnd_le (Nat.zero_le _),
      (isWellFormed_iff _).2 (isValidUTF8_extract (Nat.zero_le _))⟩
  · rintro n ⟨hn, hprefix⟩
    exact le_wellFormedEnd_of_isValidUTF8 (Nat.zero_le n) hn ((isWellFormed_iff _).1 hprefix)

end

end Coordination.Text
