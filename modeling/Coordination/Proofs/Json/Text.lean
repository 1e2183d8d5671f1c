import Coordination.Json.Text

/-!
# Strings survive their escapes

What stands between the quotes of a written string is read character by character. A character
is written by itself, by a short escape or by its number in four hexadecimal digits, and each of
these is read as this character (`readChars_escapeChar`), with no regard to what follows. So a
string that is written in front of any text is read off it again, and the text is left
(`readString_flatMap`).
-/

namespace Coordination.Json

theorem hexValue?_digitChar {n : Nat} (h : n < 16) : hexValue? (Nat.digitChar n) = some n := by
  have hall : ∀ n < 16, hexValue? (Nat.digitChar n) = some n := by decide
  exact hall n h

/-- Each character takes at least one byte. -/
theorem length_le_utf8ByteSize (cs : List Char) :
    cs.length ≤ (String.ofList cs).utf8ByteSize := by
  induction cs with
  | nil => exact Nat.zero_le _
  | cons c cs ih =>
    have hpos := c.utf8Size_pos
    rw [String.ofList_cons, String.utf8ByteSize_append, String.utf8ByteSize_singleton,
      List.length_cons]
    omega

theorem readHex4_cons {a b c d : Char} {w x y z : Nat} (ha : hexValue? a = some w)
    (hb : hexValue? b = some x) (hc : hexValue? c = some y) (hd : hexValue? d = some z)
    (rest : List Char) :
    readHex4 (a :: b :: c :: d :: rest) = .ok (w * 4096 + x * 256 + y * 16 + z, rest) := by
  have hsize : ¬ (String.ofList ((a :: b :: c :: d :: rest).take 4)).utf8ByteSize < 4 :=
    Nat.not_lt.2 (length_le_utf8ByteSize [a, b, c, d])
  rw [readHex4, if_neg hsize, ha, hb, hc, hd]

theorem readHex4_hex4 {n : Nat} (h : n < 65536) (rest : List Char) :
    readHex4 (hex4 n ++ rest) = .ok (n, rest) := by
  have hdigit : ∀ m : Nat, hexValue? (Nat.digitChar (m % 16)) = some (m % 16) :=
    fun m => hexValue?_digitChar (Nat.mod_lt m (by decide))
  have hvalue : n / 4096 % 16 * 4096 + n / 256 % 16 * 256 + n / 16 % 16 * 16 + n % 16 = n := by
    omega
  exact (readHex4_cons (hdigit _) (hdigit _) (hdigit _) (hdigit _) rest).trans (by rw [hvalue])

theorem isLowSurrogate_of_lt {n : Nat} (h : n < 0x20) : isLowSurrogate n = false := by
  rw [isLowSurrogate, Bool.and_eq_false_iff, decide_eq_false_iff_not]
  exact .inl (by omega)

theorem isHighSurrogate_of_lt {n : Nat} (h : n < 0x20) : isHighSurrogate n = false := by
  rw [isHighSurrogate, Bool.and_eq_false_iff, decide_eq_false_iff_not]
  exact .inl (by omega)

/-- A control character is read from its number. -/
theorem readUnicode_hex4 {c : Char} (h : c.toNat < 0x20) (rest : List Char) :
    readUnicode (hex4 c.toNat ++ rest) = .ok (c, rest) := by
  simp only [readUnicode, readHex4_hex4 (show c.toNat < 65536 by omega), isLowSurrogate_of_lt h,
    isHighSurrogate_of_lt h, Bool.false_eq_true, if_false, Char.ofNat_toNat]

/-- A written character is read in one step. -/
theorem readChars_escapeChar (fuel : Nat) (c : Char) (cs : List Char) :
    readChars (fuel + 1) (escapeChar c ++ cs) =
      (readChars fuel cs).map fun (s, rest) => (c :: s, rest) := by
  unfold escapeChar
  split
  · rfl
  · rfl
  · rfl
  · rfl
  · rfl
  · rfl
  · rfl
  · rename_i hquote hslash _ _ _ _ _
    split
    · rename_i hcontrol
      have hescape : readEscape ('u' :: (hex4 c.toNat ++ cs)) = .ok (c, cs) :=
        readUnicode_hex4 hcontrol cs
      show readChars (fuel + 1) ('\\' :: 'u' :: (hex4 c.toNat ++ cs)) = _
      rw [readChars, hescape]
    · rename_i hplain
      show readChars (fuel + 1) (c :: cs) = _
      rw [readChars]
      · exact if_neg hplain
      · exact hquote
      · exact hslash

/-- The fuel is one step for every character and one for the quote. -/
theorem readChars_flatMap (s : List Char) {fuel : Nat} (h : s.length < fuel) (rest : List Char) :
    readChars fuel (s.flatMap escapeChar ++ '"' :: rest) = .ok (s, rest) := by
  induction s generalizing fuel with
  | nil =>
    obtain ⟨n, rfl⟩ := Nat.exists_eq_add_of_lt h
    rw [show List.length [] + n + 1 = n + 1 by simp]
    rfl
  | cons c s ih =>
    rw [List.length_cons] at h
    obtain ⟨n, rfl⟩ := Nat.exists_eq_add_one_of_ne_zero (Nat.ne_zero_of_lt h)
    rw [List.flatMap_cons, List.append_assoc, readChars_escapeChar, ih (by omega)]
    rfl

theorem length_le_flatMap (s : List Char) : s.length ≤ (s.flatMap escapeChar).length := by
  induction s with
  | nil => exact Nat.le_refl 0
  | cons c s ih =>
    have hpos : 0 < (escapeChar c).length := by
      unfold escapeChar
      split <;> first | exact Nat.zero_lt_succ _ | (split <;> exact Nat.zero_lt_succ _)
    rw [List.flatMap_cons, List.length_append, List.length_cons]
    omega

/-- A written string is read off the front of any text, from behind its opening quote. -/
theorem readString_flatMap (s : String) (rest : List Char) :
    readString (s.toList.flatMap escapeChar ++ '"' :: rest) = .ok (s, rest) := by
  have hlength := length_le_flatMap s.toList
  have hfuel : s.toList.length < (s.toList.flatMap escapeChar ++ '"' :: rest).length + 1 := by
    rw [List.length_append]
    omega
  rw [readString, readChars_flatMap s.toList hfuel]
  show Except.ok (String.ofList s.toList, rest) = _
  rw [String.ofList_toList]

theorem toList_writeString_append (s : String) (rest : List Char) :
    (writeString s).toList ++ rest = '"' :: (s.toList.flatMap escapeChar ++ '"' :: rest) := by
  simp [writeString, writeText]

end Coordination.Json
