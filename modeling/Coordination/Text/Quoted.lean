import Coordination.Text.Extending
import Coordination.Text.Ranges
import Coordination.Text.Unprintable

/-!
# Quoted text

A text between double quotes, so that its extent and its invisible characters can be seen in a
message. Quotes, backslashes and the common controls have short escapes; a character that
prints nothing, or that would combine with the one before it, is written by its code point.
-/

namespace Coordination.Text

/-- Whether a character is shown as itself between quotes. -/
def isPlain (c : Char) : Bool :=
  let n := c.toNat
  if n < 0x7F then 0x20 ≤ n
  else !inRanges unprintableRanges n && !inRanges extendingRanges n

/-- One character as it stands between quotes. -/
def quotedChar (c : Char) : List Char :=
  match c with
  | '"' => ['\\', '"']
  | '\\' => ['\\', '\\']
  | '\n' => ['\\', 'n']
  | '\r' => ['\\', 'r']
  | '\t' => ['\\', 't']
  | '\x00' => ['\\', '0']
  | c => if isPlain c then [c] else ['\\', 'u', '\x7b'] ++ Nat.toDigits 16 c.toNat ++ ['\x7d']

/-- The text between double quotes. -/
def quoted (text : String) : String :=
  String.ofList ('"' :: text.toList.flatMap quotedChar ++ ['"'])

/-- Quoted texts in square brackets. -/
def quotedList (texts : List String) : String :=
  "[" ++ ", ".intercalate (texts.map quoted) ++ "]"

end Coordination.Text
