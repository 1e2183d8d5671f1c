import Coordination.Text.Hexadecimal
import Coordination.Toml.Value

/-!
# TOML strings

The four forms of strings: with or without escapes, on one line or on several.
-/

namespace Coordination.Toml

/-- The character whose number has exactly `n` hexadecimal digits. -/
def readScalar (n : Nat) (cs : List Char) : Except (List Char) (Char × List Char) :=
  if cs.length < n then .error cs
  else
    match (cs.take n).mapM Text.hexDigit? with
    | none => .error cs
    | some digits =>
      let value := digits.foldl (fun v d => v * 16 + d) 0
      if h : value.isValidChar then .ok (Char.ofNatAux value h, cs.drop n) else .error cs

/-- What follows a backslash. -/
def readEscape : Reader Char
  | 'b' :: rest => .ok ('\x08', rest)
  | 't' :: rest => .ok ('\t', rest)
  | 'n' :: rest => .ok ('\n', rest)
  | 'f' :: rest => .ok ('\x0c', rest)
  | 'r' :: rest => .ok ('\r', rest)
  | '"' :: rest => .ok ('"', rest)
  | '\\' :: rest => .ok ('\\', rest)
  | 'u' :: rest => readScalar 4 rest
  | 'U' :: rest => readScalar 8 rest
  | _ :: rest => .error rest
  | [] => .error ['\\']

/-- Puts characters in front of a string. -/
def prepend (front : List Char) : List Char × List Char → List Char × List Char
  | (s, rest) => (front ++ s, rest)

/-- The rest of a string between double quotes. -/
def readBasic : Nat → Reader (List Char)
  | 0, cs => .error cs
  | fuel + 1, cs =>
    match cs with
    | '"' :: rest => .ok ([], rest)
    | '\\' :: rest => do
      let (c, rest) ← readEscape rest
      return prepend [c] (← readBasic fuel rest)
    | c :: rest =>
      if isBasicChar c then (readBasic fuel rest).map (prepend [c]) else .error cs
    | [] => .error []

/-- The rest of a string between single quotes. -/
def readLiteral (cs : List Char) : Except (List Char) (List Char × List Char) :=
  match cs.dropWhile isLiteralChar with
  | '\'' :: rest => .ok (cs.takeWhile isLiteralChar, rest)
  | rest => .error rest

/-- The quotes at which a string on several lines may end: three end it, and up to two before
those belong to it. Fewer than three are part of the string. -/
def closingQuotes (quote : Char) (cs : List Char) : List Char × Option (List Char) :=
  let count := (cs.takeWhile (· == quote)).length
  if count < 3 then (List.replicate count quote, none)
  else
    let inside := min (count - 3) 2
    (List.replicate inside quote, some (cs.drop (inside + 3)))

/-- Passes over blanks and line ends. -/
def skipLines : Nat → List Char → List Char
  | 0, cs => cs
  | fuel + 1, cs =>
    match newline? (skipBlank cs) with
    | some rest => skipLines fuel rest
    | none => skipBlank cs

/-- The text after a backslash at the end of a line, from the next visible character on. -/
def continuation? (cs : List Char) : Option (List Char) :=
  (newline? (skipBlank cs)).map fun rest => skipLines rest.length rest

/-- The rest of a string between triple double quotes. -/
def readLongBasic : Nat → Reader (List Char)
  | 0, cs => .error cs
  | fuel + 1, cs =>
    match cs with
    | [] => .error []
    | '"' :: _ =>
      match closingQuotes '"' cs with
      | (quotes, some rest) => .ok (quotes, rest)
      | (quotes, none) => (readLongBasic fuel (cs.drop quotes.length)).map (prepend quotes)
    | '\\' :: rest =>
      match continuation? rest with
      | some rest => readLongBasic fuel rest
      | none => do
        let (c, rest) ← readEscape rest
        return prepend [c] (← readLongBasic fuel rest)
    | c :: rest =>
      match newline? cs with
      | some rest => (readLongBasic fuel rest).map (prepend ['\n'])
      | none =>
        if isBasicChar c then (readLongBasic fuel rest).map (prepend [c]) else .error cs

/-- The rest of a string between triple single quotes. -/
def readLongLiteral : Nat → Reader (List Char)
  | 0, cs => .error cs
  | fuel + 1, cs =>
    match cs with
    | [] => .error []
    | '\'' :: _ =>
      match closingQuotes '\'' cs with
      | (quotes, some rest) => .ok (quotes, rest)
      | (quotes, none) => (readLongLiteral fuel (cs.drop quotes.length)).map (prepend quotes)
    | c :: rest =>
      match newline? cs with
      | some rest => (readLongLiteral fuel rest).map (prepend ['\n'])
      | none =>
        if isLiteralChar c then (readLongLiteral fuel rest).map (prepend [c]) else .error cs

/-- The text without a line end at its very start. -/
def dropNewline (cs : List Char) : List Char := (newline? cs).getD cs

/-- A string of any form. -/
def readText (cs : List Char) : Except (List Char) (String × List Char) :=
  let found := match cs with
    | '"' :: '"' :: '"' :: rest =>
      let rest := dropNewline rest
      readLongBasic (rest.length + 1) rest
    | '"' :: rest => readBasic (rest.length + 1) rest
    | '\'' :: '\'' :: '\'' :: rest =>
      let rest := dropNewline rest
      readLongLiteral (rest.length + 1) rest
    | '\'' :: rest => readLiteral rest
    | _ => .error cs
  found.map fun (s, rest) => (String.ofList s, rest)

end Coordination.Toml
