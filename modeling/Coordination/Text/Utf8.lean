/-!
# UTF-8 and where it breaks

Bytes are read as UTF-8 text. Bytes that are no text are refused with the place of the first
fault: the index is the end of the longest well-formed start, and the length is that of the
longest run from there which begins some encoded character.
-/

namespace Coordination.Text

/-- Why bytes are not UTF-8. -/
inductive Utf8Fault where
  /-- The `length` bytes at `index` begin no encoded character together with what follows. -/
  | malformed (length index : Nat)
  /-- The bytes end inside a character that begins at `index`. -/
  | unfinished (index : Nat)
deriving DecidableEq, Repr

def Utf8Fault.message : Utf8Fault → String
  | .malformed length index => s!"invalid utf-8 sequence of {length} bytes from index {index}"
  | .unfinished index => s!"incomplete utf-8 byte sequence from index {index}"

/-- The ranges of the bytes that follow a first byte, or `none` if no character begins with it.
Only the second byte's range depends on the first byte: that excludes overlong forms,
surrogates and values above `10FFFF`. -/
def utf8Followers? (first : UInt8) : Option (List (UInt8 × UInt8)) :=
  if first < 0x80 then some []
  else if first < 0xC2 then none
  else if first < 0xE0 then some [(0x80, 0xBF)]
  else if first == 0xE0 then some [(0xA0, 0xBF), (0x80, 0xBF)]
  else if first == 0xED then some [(0x80, 0x9F), (0x80, 0xBF)]
  else if first < 0xF0 then some [(0x80, 0xBF), (0x80, 0xBF)]
  else if first == 0xF0 then some [(0x90, 0xBF), (0x80, 0xBF), (0x80, 0xBF)]
  else if first < 0xF4 then some [(0x80, 0xBF), (0x80, 0xBF), (0x80, 0xBF)]
  else if first == 0xF4 then some [(0x80, 0x8F), (0x80, 0xBF), (0x80, 0xBF)]
  else none

/-- How many bytes from `index` on lie in the ranges, one byte each, and whether the bytes
end before the ranges do. -/
def matchFollowers (bytes : ByteArray) : Nat → List (UInt8 × UInt8) → Nat × Bool
  | _, [] => (0, false)
  | index, (low, high) :: ranges =>
    match bytes[index]? with
    | none => (0, true)
    | some byte =>
      if low ≤ byte ∧ byte ≤ high then
        let (count, ended) := matchFollowers bytes (index + 1) ranges
        (count + 1, ended)
      else (0, false)

/-- The end of the longest run of whole characters that begins at `index`. -/
def wellFormedEnd (bytes : ByteArray) (index : Nat) : Nat :=
  match _h : bytes.utf8DecodeChar? index with
  | some c => wellFormedEnd bytes (index + c.utf8Size)
  | none => index
termination_by bytes.size - index
decreasing_by
  have := ByteArray.lt_size_of_isSome_utf8DecodeChar? (Option.isSome_of_eq_some _h)
  have := c.utf8Size_pos
  omega

/-- The fault at an index where no whole character begins. -/
def utf8FaultAt (bytes : ByteArray) (index : Nat) : Utf8Fault :=
  match bytes[index]? with
  | none => .unfinished index
  | some first =>
    match utf8Followers? first with
    | none => .malformed 1 index
    | some ranges =>
      match matchFollowers bytes (index + 1) ranges with
      | (_, true) => .unfinished index
      | (count, false) => .malformed (count + 1) index

/-- The text that the bytes encode. -/
def decodeUtf8 (bytes : ByteArray) : Except Utf8Fault String :=
  match String.fromUTF8? bytes with
  | some text => .ok text
  | none => .error (utf8FaultAt bytes (wellFormedEnd bytes 0))

/-- Bytes are refused exactly when they encode no text. -/
theorem decodeUtf8_isOk_iff (bytes : ByteArray) :
    (∃ text, decodeUtf8 bytes = .ok text) ↔ bytes.IsValidUTF8 := by
  unfold decodeUtf8 String.fromUTF8?
  by_cases h : bytes.IsValidUTF8 <;> simp [h]

theorem decodeUtf8_toUTF8 (text : String) : decodeUtf8 text.toUTF8 = .ok text := by
  have h : String.fromUTF8? text.toUTF8 = some text := by
    simp [String.fromUTF8?, String.toUTF8, text.isValidUTF8]
    rfl
  rw [decodeUtf8, h]

end Coordination.Text
