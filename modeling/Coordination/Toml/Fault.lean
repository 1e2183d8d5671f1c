import Coordination.Toml.Value

/-!
# Places of faults

Where a document cannot be read on, or says what is not wanted. Lines and columns are counted
from one.
-/

namespace Coordination.Toml

structure Fault where
  line : Nat
  column : Nat
deriving DecidableEq, Repr

namespace Fault

def message (f : Fault) : String :=
  s!"TOML parse error at line {f.line}, column {f.column}"

/-- The characters of the last line of a text. -/
def lastLine (cs : List Char) : List Char := (cs.reverse.takeWhile (· ≠ '\n')).reverse

def countLines (cs : List Char) : Nat := (cs.filter (· == '\n')).length

/-- The fault at a place of a text. The end is on the line of the last character. In front of a
character beyond ASCII, columns are counted in bytes. -/
def ofPlace (cs : List Char) (place : Place) : Fault :=
  let before := cs.take (cs.length - place)
  match cs.drop (cs.length - place) with
  | [] =>
    let before := before.dropLast
    ⟨countLines before + 1, (lastLine before).length + 2⟩
  | c :: _ =>
    let line := lastLine before
    let width := if c.toNat < 0x80 then line.length else (String.ofList line).utf8ByteSize
    ⟨countLines before + 1, width + 1⟩

end Fault

end Coordination.Toml
