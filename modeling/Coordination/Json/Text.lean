import Coordination.Json.Fault

/-!
# JSON strings

Writing and reading the text between two quotes. A skipped string is read with less care: its
`\u` escapes need not form characters.
-/

namespace Coordination.Json

/-! ## Writing -/

/-- Four hexadecimal digits. -/
def hex4 (n : Nat) : List Char :=
  [n / 4096 % 16, n / 256 % 16, n / 16 % 16, n % 16].map Nat.digitChar

/-- One character as it stands between quotes. Only what must be escaped is. -/
def escapeChar (c : Char) : List Char :=
  match c with
  | '"' => ['\\', '"']
  | '\\' => ['\\', '\\']
  | '\n' => ['\\', 'n']
  | '\r' => ['\\', 'r']
  | '\t' => ['\\', 't']
  | '\x08' => ['\\', 'b']
  | '\x0c' => ['\\', 'f']
  | c => if c.toNat < 0x20 then '\\' :: 'u' :: hex4 c.toNat else [c]

/-- The characters of a string with its quotes. -/
def writeText (s : String) : List Char := '"' :: s.toList.flatMap escapeChar ++ ['"']

/-- A string with its quotes. -/
def writeString (s : String) : String := String.ofList (writeText s)

/-! ## Reading -/

def hexValue? (c : Char) : Option Nat :=
  if c.isDigit then some (c.toNat - '0'.toNat)
  else if 'a' ≤ c ∧ c ≤ 'f' then some (c.toNat - 'a'.toNat + 10)
  else if 'A' ≤ c ∧ c ≤ 'F' then some (c.toNat - 'A'.toNat + 10)
  else none

/-- Four hexadecimal digits. The text counts as ended if fewer than four bytes are left. -/
def readHex4 (cs : List Char) : Except Fault (Nat × List Char) :=
  if (String.ofList (cs.take 4)).utf8ByteSize < 4 then .error .truncated
  else
    match cs with
    | a :: b :: c :: d :: rest =>
      match hexValue? a, hexValue? b, hexValue? c, hexValue? d with
      | some a, some b, some c, some d => .ok (a * 4096 + b * 256 + c * 16 + d, rest)
      | _, _, _, _ => .error .malformed
    | _ => .error .malformed

def isHighSurrogate (n : Nat) : Bool := 0xD800 ≤ n && n < 0xDC00
def isLowSurrogate (n : Nat) : Bool := 0xDC00 ≤ n && n < 0xE000

/-- What follows a backslash and `u`: the four digits of a character, or of two surrogates that
make one. -/
def readUnicode (cs : List Char) : Except Fault (Char × List Char) :=
  match readHex4 cs with
  | .error e => .error e
  | .ok (high, rest) =>
    if isLowSurrogate high then .error .malformed
    else if isHighSurrogate high then
      match rest with
      | [] | ['\\'] => .error .truncated
      | '\\' :: 'u' :: rest =>
        match readHex4 rest with
        | .error e => .error e
        | .ok (low, rest) =>
          if isLowSurrogate low then
            .ok (Char.ofNat (0x10000 + (high - 0xD800) * 0x400 + (low - 0xDC00)), rest)
          else .error .malformed
      | _ => .error .malformed
    else .ok (Char.ofNat high, rest)

/-- The character of a short escape. -/
def shortEscape? : Char → Option Char
  | '"' => some '"'
  | '\\' => some '\\'
  | '/' => some '/'
  | 'b' => some '\x08'
  | 'f' => some '\x0c'
  | 'n' => some '\n'
  | 'r' => some '\r'
  | 't' => some '\t'
  | _ => none

/-- What follows a backslash. -/
def readEscape : List Char → Except Fault (Char × List Char)
  | [] => .error .truncated
  | 'u' :: rest => readUnicode rest
  | c :: rest =>
    match shortEscape? c with
    | some c => .ok (c, rest)
    | none => .error .malformed

/-- What follows a backslash in a string that is skipped. -/
def skipEscape : List Char → Except Fault (List Char)
  | [] => .error .truncated
  | 'u' :: rest => (readHex4 rest).map (·.2)
  | c :: rest => if (shortEscape? c).isSome then .ok rest else .error .malformed

/-- The characters up to the closing quote. Each step takes at least one character, so the
text's length is fuel enough. -/
def readChars : Nat → Reader (List Char)
  | 0, _ => .error .truncated
  | fuel + 1, cs =>
    match cs with
    | [] => .error .truncated
    | '"' :: rest => .ok ([], rest)
    | '\\' :: rest =>
      match readEscape rest with
      | .error e => .error e
      | .ok (c, rest) => (readChars fuel rest).map fun (s, rest) => (c :: s, rest)
    | c :: rest =>
      if c.toNat < 0x20 then .error .malformed
      else (readChars fuel rest).map fun (s, rest) => (c :: s, rest)

/-- The string whose opening quote has been taken. -/
def readString (cs : List Char) : Except Fault (String × List Char) :=
  (readChars (cs.length + 1) cs).map fun (s, rest) => (String.ofList s, rest)

/-- Passes over characters up to the closing quote. -/
def skipChars : Nat → List Char → Except Fault (List Char)
  | 0, _ => .error .truncated
  | fuel + 1, cs =>
    match cs with
    | [] => .error .truncated
    | '"' :: rest => .ok rest
    | '\\' :: rest =>
      match skipEscape rest with
      | .error e => .error e
      | .ok rest => skipChars fuel rest
    | c :: rest => if c.toNat < 0x20 then .error .malformed else skipChars fuel rest

def skipString (cs : List Char) : Except Fault (List Char) := skipChars (cs.length + 1) cs

end Coordination.Json
