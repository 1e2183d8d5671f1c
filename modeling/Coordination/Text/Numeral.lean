/-!
# Numerals

Decimal integers as a person writes them in a message: one optional sign and then ASCII digits,
leading zeros allowed. Main statement: what `toString` writes for a number reads back as it.
-/

namespace Coordination.Text

/-- The value of a non-empty run of ASCII digits. -/
def readDigits? (cs : List Char) : Option Nat :=
  if cs ≠ [] ∧ cs.all Char.isDigit then some (Nat.ofDigitChars 10 cs 0) else none

/-- The value of ASCII digits after at most one plus sign. -/
def readUnsigned? : List Char → Option Nat
  | '+' :: digits => readDigits? digits
  | digits => readDigits? digits

/-- The value of ASCII digits after at most one sign. -/
def readSigned? : List Char → Option Int
  | '+' :: digits => (readDigits? digits).map fun n => (n : Int)
  | '-' :: digits => (readDigits? digits).map fun n => -(n : Int)
  | digits => (readDigits? digits).map fun n => (n : Int)

/-- A signed numeral whose value fits in 64 bits. -/
def readInt64? (cs : List Char) : Option Int64 :=
  (readSigned? cs).bind fun n =>
    if Int64.minValue.toInt ≤ n ∧ n ≤ Int64.maxValue.toInt then some (Int64.ofInt n) else none

theorem readDigits?_toDigits (n : Nat) : readDigits? (Nat.toDigits 10 n) = some n := by
  have hne : Nat.toDigits 10 n ≠ [] := Nat.toDigits_ne_nil
  have hall : (Nat.toDigits 10 n).all Char.isDigit = true := by
    rw [List.all_eq_true]
    intro c hc
    exact Nat.isDigit_of_mem_toDigits (by decide) (by decide) hc
  rw [readDigits?, if_pos ⟨hne, hall⟩, Nat.ofDigitChars_toDigits (by decide) (by decide)]

theorem readSigned?_of_readDigits? {cs : List Char} {n : Nat} (h : readDigits? cs = some n) :
    readSigned? cs = some (n : Int) := by
  unfold readSigned?
  split
  · simp [readDigits?] at h
  · simp [readDigits?] at h
  · simp [h]

theorem toList_toString_ofNat (m : Nat) :
    (toString (Int.ofNat m)).toList = Nat.toDigits 10 m := by
  simp [toString, Int.repr, Nat.repr]

theorem toList_toString_negSucc (m : Nat) :
    (toString (Int.negSucc m)).toList = '-' :: Nat.toDigits 10 (m + 1) := by
  simp [toString, Int.repr, Nat.repr]

theorem readSigned?_toString (n : Int) : readSigned? (toString n).toList = some n := by
  cases n with
  | ofNat m =>
    rw [toList_toString_ofNat, readSigned?_of_readDigits? (readDigits?_toDigits m)]
    rfl
  | negSucc m =>
    rw [toList_toString_negSucc, readSigned?, readDigits?_toDigits]
    simp [Int.negSucc_eq]

theorem readInt64?_toString (n : Int64) : readInt64? (toString n).toList = some n := by
  have h : toString n = toString n.toInt := rfl
  rw [readInt64?, h, readSigned?_toString, Option.bind_some,
    if_pos ⟨n.minValue_le_toInt, n.toInt_le⟩, Int64.ofInt_toInt]

end Coordination.Text
