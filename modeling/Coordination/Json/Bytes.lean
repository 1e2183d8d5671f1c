/-!
# JSON from bytes

A JSON text should be UTF-8. Bytes that are not do no harm inside a string that is skipped, and
are a fault everywhere else. To that end each of them is read as the escape of a surrogate between
two replacement characters. The characters keep the surrogate from being paired with an escape that
stands before or after it, so it is refused in a string that matters, and outside of strings none
of the three can stand at all.
-/

namespace Coordination.Json

/-- What an ill-formed byte is read as. -/
def illFormedMark : List Char := '\uFFFD' :: "\\ud800".toList ++ ['\uFFFD']

/-- The text of the bytes from `index` on. -/
def charsFrom (bytes : ByteArray) (index : Nat) : List Char :=
  match _h : bytes.utf8DecodeChar? index with
  | some c => c :: charsFrom bytes (index + c.utf8Size)
  | none => if index < bytes.size then illFormedMark ++ charsFrom bytes (index + 1) else []
termination_by bytes.size - index
decreasing_by
  · have := ByteArray.lt_size_of_isSome_utf8DecodeChar? (Option.isSome_of_eq_some _h)
    have := c.utf8Size_pos
    omega
  · omega

/-- The text of bytes of which some may be ill-formed. -/
def textOfBytes (bytes : ByteArray) : String := String.ofList (charsFrom bytes 0)

end Coordination.Json
