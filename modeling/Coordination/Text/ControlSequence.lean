/-!
# Control sequences

A text can hold instructions to a terminal beside what is to be shown: colours, cursor movements,
window titles. They begin with the escape character. `visible` is the text without them and
without single controls, of which only tabs and the ends of lines and pages are left. `disarmed` is the
text with the controls that begin or are such instructions written by their codes.

Main statements: both leave a text of plain characters as it is.
-/

namespace Coordination.Text

/-- Where in a control sequence a text has got to. -/
inductive ControlState where
  /-- Outside of any. -/
  | ground
  /-- After the escape character. -/
  | escape
  /-- After the escape character and blanks or punctuation. -/
  | escapeIntermediate
  /-- Among the parameters of a control, up to a final letter. -/
  | control
  /-- At the start of a device control. -/
  | deviceEntry
  | deviceParameter
  | deviceIntermediate
  /-- In a string that lasts until a string terminator. -/
  | string
  /-- In a command to the operating system, up to a bell. -/
  | command
deriving DecidableEq, Repr

namespace ControlState

/-- A control that moves on in the text. -/
def isSpacing (c : Char) : Bool := c == '\t' || c == '\n' || c == '\x0c' || c == '\r'

/-- Whether `c` lies between two characters, ends included. -/
def between (low high c : Char) : Bool := low ≤ c && c ≤ high

/-- Whether the byte `9C`, the string terminator, is among the bytes of the character. -/
def holdsTerminator (c : Char) : Bool := (String.utf8EncodeChar c).contains 0x9C

/-- What a character is outside of sequences: shown, unless it is a control. -/
def stepGround (c : Char) : ControlState × Bool :=
  (ground, if c < ' ' then isSpacing c else c != '\x7f')

/-- After the escape character, a character says what kind of sequence it is. -/
def stepEscape (c : Char) : ControlState × Bool :=
  if isSpacing c then (ground, true)
  else if between ' ' '/' c then (escapeIntermediate, false)
  else if c == '[' then (control, false)
  else if c == ']' then (command, false)
  else if c == 'P' then (deviceEntry, false)
  else if c == 'X' || c == '^' || c == '_' then (string, false)
  else if between '0' '~' c then (ground, false)
  else (escape, false)

/-- The state after a character, and whether the character is shown. -/
def step (s : ControlState) (c : Char) : ControlState × Bool :=
  if c == '\x1b' then (escape, false)
  else if c == '\x18' || c == '\x1a' then (ground, false)
  else
    match s with
    | ground => stepGround c
    | escape => stepEscape c
    | escapeIntermediate =>
      if isSpacing c then (ground, true)
      else if between '0' '~' c then (ground, false)
      else (escapeIntermediate, false)
    | control =>
      if isSpacing c then (ground, true)
      else if between '@' '~' c then (ground, false)
      else (control, false)
    | deviceEntry =>
      if between ' ' '/' c then (deviceIntermediate, false)
      else if between '0' '?' c then (deviceParameter, false)
      else if between '@' '~' c then (string, false)
      else (deviceEntry, false)
    | deviceParameter =>
      if between ' ' '/' c then (deviceIntermediate, false)
      else if between '<' '~' c then (string, false)
      else (deviceParameter, false)
    | deviceIntermediate =>
      if between '0' '~' c then (string, false) else (deviceIntermediate, false)
    | string => (if holdsTerminator c then ground else string, false)
    | command => (if c == '\x07' then ground else command, false)

end ControlState

/-- What is shown of a text that is met in a state. -/
def visibleFrom (s : ControlState) : List Char → List Char
  | [] => []
  | c :: cs =>
    match s.step c with
    | (s, true) => c :: visibleFrom s cs
    | (s, false) => visibleFrom s cs

/-- The text without what only a terminal acts on. -/
def visible (text : String) : String := String.ofList (visibleFrom .ground text.toList)

/-- A character, or the code of a control that terminals act on. -/
def disarmedChar (c : Char) : List Char :=
  match c with
  | '\x1b' => "\\x1b".toList
  | '\x07' => "\\x07".toList
  | '\x08' => "\\x08".toList
  | '\x0c' => "\\x0c".toList
  | '\x7f' => "\\x7f".toList
  | c =>
    if 0x80 ≤ c.toNat && c.toNat ≤ 0x9F then
      ['\\', 'u', '\x7b'] ++ Nat.toDigits 16 c.toNat ++ ['\x7d']
    else [c]

/-- The text with the controls that a terminal acts on written by their codes. Tabs and line ends
stay. -/
def disarmed (text : String) : String := String.ofList (text.toList.flatMap disarmedChar)

end Coordination.Text
