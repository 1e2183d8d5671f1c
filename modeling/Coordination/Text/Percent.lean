import Coordination.Text.Hexadecimal

/-!
# Percent-encoding

In a URL a byte may be written as a percent sign and its two hexadecimal digits. A percent sign
without two digits after it stands for itself.
-/

namespace Coordination.Text

/-- The bytes that a text stands for. -/
def percentDecode : List Char → List UInt8
  | [] => []
  | '%' :: a :: b :: rest =>
    match hexDigit? a, hexDigit? b with
    | some high, some low => UInt8.ofNat (16 * high + low) :: percentDecode rest
    | _, _ => String.utf8EncodeChar '%' ++ percentDecode (a :: b :: rest)
  | c :: rest => String.utf8EncodeChar c ++ percentDecode rest

/-- The text that a text stands for, if its bytes are one. -/
def percentDecode? (cs : List Char) : Option String :=
  String.fromUTF8? ⟨(percentDecode cs).toArray⟩

end Coordination.Text
