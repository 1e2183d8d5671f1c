import Mathlib.Data.String.Basic
import Mathlib.Tactic.SplitIfs
import Coordination.Proofs.Text.WellFormed

/-!
# The order of texts and of their bytes

Texts are compared character by character. Their bytes are in the same order (`toUTF8_lt`), since
the bytes of a character are before those of a greater one (`isBefore_utf8EncodeChar`). Between
different numbers of bytes the first byte decides, and otherwise the bits of the character do, of
which each byte has a part.
-/

namespace Coordination.Text

/-- The first bytes are before the second ones, whatever follows either of them. -/
def IsBefore (as bs : List UInt8) : Prop := ∀ r s, as ++ r < bs ++ s

theorem IsBefore.cons {a b : ℕ} (h : a < b) (hb : b < 256) (as bs : List UInt8) :
    IsBefore (UInt8.ofNat a :: as) (UInt8.ofNat b :: bs) := by
  intro r s
  refine List.Lex.rel ?_
  rw [UInt8.lt_iff_toNat_lt, UInt8.toNat_ofNat', UInt8.toNat_ofNat']
  omega

/-- The bits of a number in a row of bytes, from the last byte on six in each. The rest is a number
below `bound`, which is added to `mark` in the first byte. -/
def spread (bound mark : ℕ) : ℕ → ℕ → List UInt8
  | 0, n => [UInt8.ofNat (n % bound + mark)]
  | k + 1, n => spread bound mark k (n / 64) ++ [UInt8.ofNat (n % 64 + 128)]

theorem isBefore_spread (bound mark k : ℕ) (hmark : bound + mark ≤ 256) {v w : ℕ}
    (h : v < w) (hw : w < bound * 64 ^ k) :
    IsBefore (spread bound mark k v) (spread bound mark k w) := by
  induction k generalizing v w with
  | zero =>
    rw [Nat.pow_zero, Nat.mul_one] at hw
    rw [spread, spread, Nat.mod_eq_of_lt hw, Nat.mod_eq_of_lt (h.trans hw)]
    exact .cons (by omega) (by omega) [] []
  | succ k ih =>
    intro r s
    rw [spread, spread, List.append_assoc, List.append_assoc]
    rcases (Nat.div_le_div_right (c := 64) h.le).lt_or_eq with hlt | heq
    · have hrest : w / 64 < bound * 64 ^ k := by
        rw [Nat.div_lt_iff_lt_mul (by decide), Nat.mul_assoc, ← Nat.pow_succ]
        exact hw
      exact ih hlt hrest _ _
    · rw [heq]
      exact List.Lex.append_left _ (IsBefore.cons (by omega) (by omega) [] [] r s) _

/-- A character is before a greater one. -/
theorem isBefore_utf8EncodeChar {c d : Char} (h : c < d) :
    IsBefore (String.utf8EncodeChar c) (String.utf8EncodeChar d) := by
  have hlt : c.val.toNat < d.val.toNat := h
  have hd : d.val.toNat < 0x110000 := by
    have : d.val.toNat < 0xD800 ∨ 0xDFFF < d.val.toNat ∧ d.val.toNat < 0x110000 := d.valid
    omega
  have hdiv (n : ℕ) : n / 4096 = n / 64 / 64 := by omega
  have hdiv' (n : ℕ) : n / 262144 = n / 64 / 64 / 64 := by omega
  simp only [String.utf8EncodeChar, hdiv, hdiv']
  generalize c.val.toNat = v at hlt
  generalize d.val.toNat = w at hlt hd
  split_ifs
  -- This leaves two, three and four bytes of both characters.
  any_goals (refine IsBefore.cons ?_ ?_ _ _ <;> omega)
  · exact isBefore_spread 32 192 1 (by decide) hlt (by omega)
  · exact isBefore_spread 16 224 2 (by decide) hlt (by omega)
  · exact isBefore_spread 8 240 3 (by decide) hlt (by omega)

theorem flatMap_utf8EncodeChar_lt {cs ds : List Char} (h : cs < ds) :
    cs.flatMap String.utf8EncodeChar < ds.flatMap String.utf8EncodeChar := by
  induction h with
  | @nil d ds =>
    obtain ⟨b, bs, hd⟩ := List.exists_cons_of_ne_nil (String.utf8EncodeChar_ne_nil (c := d))
    rw [List.flatMap_nil, List.flatMap_cons, hd]
    exact List.nil_lt_cons _ _
  | @cons c cs ds _ ih =>
    rw [List.flatMap_cons, List.flatMap_cons]
    exact List.Lex.append_left _ ih _
  | rel h => exact isBefore_utf8EncodeChar h _ _

theorem toUTF8_lt {s t : String} (h : s < t) : s.toUTF8.data.toList < t.toUTF8.data.toList := by
  have hbytes (u : String) : u.toUTF8.data.toList = u.toList.flatMap String.utf8EncodeChar := by
    rw [String.toUTF8, ← String.utf8Encode_toList, List.utf8Encode, List.data_toByteArray]
  rw [hbytes, hbytes]
  exact flatMap_utf8EncodeChar_lt (String.lt_iff_toList_lt.1 h)

end Coordination.Text
