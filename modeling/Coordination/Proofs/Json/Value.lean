import Coordination.Proofs.Json.Double
import Coordination.Proofs.Json.Text

/-!
# Values survive their texts

Each reader of a value takes off what is written for the value, whatever follows, as long as a
number would end there (`Reads`): integers within their bounds, numbers that name something,
strings, doubles that read back, and what may be `null`. A double that is read, from whatever
text, is finite (`isFinite_of_readF64`).
-/

namespace Coordination.Json

/-- The reader takes the value off the text, and leaves what follows. -/
def Reads {α : Type} (read : Reader α) (text : String) (a : α) : Prop :=
  ∀ rest, EndsNumber rest → read (text.toList ++ rest) = .ok (a, rest)

/-! ## What is found -/

theorem skipBlank_cons {c : Char} (h : isBlank c = false) (cs : List Char) :
    skipBlank (c :: cs) = c :: cs :=
  List.dropWhile_cons_of_neg (by simp [h])

theorem isBlank_of_isNumeral {c : Char} (h : Text.isNumeral c) : isBlank c = false := by
  cases hblank : isBlank c with
  | false => rfl
  | true =>
    have hcases : c = ' ' ∨ c = '\n' ∨ c = '\t' ∨ c = '\r' := by
      simpa [isBlank, or_assoc] using hblank
    rcases hcases with rfl | rfl | rfl | rfl <;> exact absurd h (by decide)

def Number.found : Number → Found
  | integer n => .integer n
  | float x => .float x

theorem readFound_of_readNumber {cs r : List Char} {x : Number} (h : readNumber cs = .ok (x, r)) :
    readFound cs = .ok (x.found, r) := by
  obtain ⟨c, tail, rfl, hnumeral⟩ := exists_isNumeral_of_readNumber h
  have hfront : (c == '-' || c.isDigit) = true := by
    rwa [Bool.or_comm]
  have hother : ∀ d tail', c :: tail = d :: tail' → Text.isNumeral d = true := by
    intro d tail' heq
    rwa [← (List.cons.inj heq).1]
  unfold readFound
  rw [skipBlank_cons (isBlank_of_isNumeral hnumeral)]
  split <;> rename_i heq
  · cases heq
  · exact absurd (hother _ _ heq) (by decide)
  · exact absurd (hother _ _ heq) (by decide)
  · exact absurd (hother _ _ heq) (by decide)
  · exact absurd (hother _ _ heq) (by decide)
  · exact absurd (hother _ _ heq) (by decide)
  · exact absurd (hother _ _ heq) (by decide)
  · obtain ⟨rfl, rfl⟩ := List.cons.inj heq
    rw [hfront, if_pos rfl, h]
    cases x <;> rfl

theorem reads_found_of_readNumber {text : String} {x : Number}
    (h : readNumber text.toList = .ok (x, [])) : Reads readFound text x.found :=
  fun _ hrest => readFound_of_readNumber (readNumber_append hrest h)

theorem reads_found_toString {n : Int} (hlow : Int64.minValue.toInt ≤ n)
    (hhigh : n < (UInt64.size : Int)) : Reads readFound (toString n) (.integer n) :=
  reads_found_of_readNumber (readNumber_toString hlow hhigh)

theorem reads_found_writeFloat {x : Float} (h : readsBack x = true) :
    Reads readFound (writeFloat x) (.float x) :=
  reads_found_of_readNumber (readNumber_of_readsBack h)

theorem reads_found_writeString (s : String) : Reads readFound (writeString s) (.string s) := by
  intro rest _
  rw [toList_writeString_append]
  show (readString (s.toList.flatMap escapeChar ++ '"' :: rest)).map _ = _
  rw [readString_flatMap]
  rfl

/-- A double is found only where a number is read. -/
theorem isFinite_of_readFound {cs r : List Char} {x : Float}
    (h : readFound cs = .ok (.float x, r)) : x.isFinite = true := by
  unfold readFound at h
  split at h
  · cases h
  · obtain ⟨_, -, hfound⟩ := exists_of_map_eq_ok h
    cases hfound
  · obtain ⟨_, -, hfound⟩ := exists_of_map_eq_ok h
    cases hfound
  · obtain ⟨_, -, hfound⟩ := exists_of_map_eq_ok h
    cases hfound
  · obtain ⟨_, -, hfound⟩ := exists_of_map_eq_ok h
    cases hfound
  · cases h
  · cases h
  · split at h
    · obtain ⟨⟨n, rest⟩, hread, hfound⟩ := exists_of_map_eq_ok h
      cases n with
      | integer n => cases hfound
      | float y =>
        cases hfound
        exact isFinite_of_readNumber hread
    · cases h

/-! ## What is taken of it -/

section

variable {α : Type} {text : String} {found : Found} {a : α}

theorem reads_with {take : Found → Except Mismatch α} (h : Reads readFound text found)
    (htake : take found = .ok a) : Reads (readWith take) text a := by
  intro rest hrest
  rw [readWith, h rest hrest]
  dsimp only
  rw [htake]

theorem takeInteger_of_le {expected : String} {low high n : Int} (hlow : low ≤ n)
    (hhigh : n ≤ high) : takeInteger expected low high (.integer n) = .ok n :=
  if_pos ⟨hlow, hhigh⟩

theorem reads_i64 (n : Int64) : Reads readI64 (toString n) n := by
  have hhigh : Int64.maxValue.toInt < (UInt64.size : Int) := by decide
  have hle := n.toInt_le
  refine reads_with (reads_found_toString n.minValue_le_toInt (by omega)) ?_
  rw [takeInteger_of_le n.minValue_le_toInt n.toInt_le]
  exact congrArg Except.ok n.ofInt_toInt

theorem reads_found_toString_nat {n : Nat} (h : n < UInt64.size) :
    Reads readFound (toString n) (.integer n) := by
  have hlow : Int64.minValue.toInt ≤ 0 := by decide
  exact reads_found_toString (n := n) (by omega) (by omega)

theorem reads_u64 (n : UInt64) : Reads readU64 (toString n) n := by
  have hlt : n.toNat < UInt64.size := n.toNat_lt
  refine reads_with (reads_found_toString_nat hlt) ?_
  rw [takeInteger_of_le (by omega) (by omega)]
  exact congrArg Except.ok (UInt64.ofNat_toNat)

theorem reads_u32 (n : UInt32) : Reads readU32 (toString n) n := by
  have hlt : n.toNat < UInt32.size := n.toNat_lt
  have hsize : UInt32.size < UInt64.size := by decide
  refine reads_with (reads_found_toString_nat (by omega)) ?_
  rw [takeInteger_of_le (by omega) (by omega)]
  exact congrArg Except.ok (UInt32.ofNat_toNat)

/-- A number below 256 that names something is read as what it names. -/
theorem reads_code {ofNat? : Nat → Option α} {unknown : Nat → String} {n : Nat}
    (hlt : n ≤ 255) (h : ofNat? n = some a) : Reads (readCode ofNat? unknown) (toString n) a := by
  have hsize : 255 < UInt64.size := by decide
  refine reads_with (reads_found_toString_nat (by omega)) ?_
  rw [takeInteger_of_le (by omega) (by omega)]
  dsimp only
  rw [Int.toNat_natCast, h]

theorem reads_f64 {x : Float} (h : readsBack x = true) : Reads readF64 (writeFloat x) x :=
  reads_with (reads_found_writeFloat h) rfl

theorem reads_text (s : String) : Reads readText (writeString s) s :=
  reads_with (reads_found_writeString s) rfl

theorem found_of_readWith {take : Found → Except Mismatch α} {cs r : List Char}
    (h : readWith take cs = .ok (a, r)) :
    ∃ found, readFound cs = .ok (found, r) ∧ take found = .ok a := by
  unfold readWith at h
  split at h
  · cases h
  · rename_i hfound
    split at h
    · rename_i htake
      obtain ⟨rfl, rfl⟩ := Prod.mk.inj (Except.ok.inj h)
      exact ⟨_, hfound, htake⟩
    · cases h

/-- A double that is read is finite, be it written as a double or as an integer. -/
theorem isFinite_of_readF64 {cs r : List Char} {x : Float} (h : readF64 cs = .ok (x, r)) :
    x.isFinite = true := by
  obtain ⟨found, hfound, htake⟩ := found_of_readWith h
  cases found with
  | integer n =>
    rw [← Except.ok.inj htake]
    exact isFinite_floatOfInteger n
  | float y =>
    rw [← Except.ok.inj htake]
    exact isFinite_of_readFound hfound
  | null | boolean _ | string _ | array | object => cases htake

theorem reads_optional_null (read : Reader α) : Reads (readOptional read) "null" none :=
  fun _ _ => rfl

theorem reads_optional_f64 {x : Float} (h : readsBack x = true) :
    Reads (readOptional readF64) (writeFloat x) (some x) := by
  intro rest hrest
  obtain ⟨c, tail, hchars, hnumeral⟩ :=
    exists_isNumeral_of_readNumber (readNumber_of_readsBack h)
  have hread := reads_f64 h rest hrest
  rw [hchars, List.cons_append] at hread ⊢
  rw [readOptional, skipBlank_cons (isBlank_of_isNumeral hnumeral)]
  split
  · rename_i heq
    rw [(List.cons.inj heq).1] at hnumeral
    exact absurd hnumeral (by decide)
  · rw [hread]
    rfl

end

end Coordination.Json
