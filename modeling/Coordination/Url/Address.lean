import Coordination.Text.Hexadecimal
import Coordination.Text.Numeral

/-!
# Network addresses

An address is eight groups of 16 bits, written in hexadecimal with colons between them. Two colons
in a row stand, once, for as many groups of zero as are missing. The last two groups may be written
as four decimal numbers with points between them.
-/

namespace Coordination.Url

/-- The number of groups of an address. -/
def groupCount : Nat := 8

/-- A group, of at most four digits, and what follows it. -/
def readGroup (cs : List Char) : List Nat × List Char :=
  let digits := (cs.take 4).takeWhile fun c => (Text.hexDigit? c).isSome
  (digits.filterMap Text.hexDigit?, cs.drop digits.length)

/-- The value of hexadecimal digits. -/
def groupValue (digits : List Nat) : Nat := digits.foldl (fun v d => 16 * v + d) 0

/-- A number of 8 bits without superfluous zeros. -/
def readByte? (cs : List Char) : Option Nat :=
  match cs with
  | '0' :: _ :: _ => none
  | cs => (Text.readDigits? cs).filter (· < UInt8.size)

/-- Four decimal numbers as two groups. -/
def readDecimalGroups? (cs : List Char) : Option (List Nat) :=
  match ((String.ofList cs).splitOn ".").mapM fun part => readByte? part.toList with
  | some [a, b, c, d] => some [256 * a + b, 256 * c + d]
  | _ => none

/-- Reads groups after those that were read already. `gap` tells whether groups have been left
out; the place where they were counts as a group of zero. -/
def readGroups : Nat → List Nat → Bool → List Char → Option (List Nat × Bool)
  | 0, _, _, _ => none
  | fuel + 1, groups, gap, cs =>
    match cs with
    | [] => some (groups, gap)
    | ':' :: rest =>
      if groupCount ≤ groups.length || gap then none
      else readGroups fuel (groups ++ [0]) true rest
    | cs =>
      if groupCount ≤ groups.length then none
      else
        match readGroup cs with
        | ([], _) => none
        | (digits, []) => some (groups ++ [groupValue digits], gap)
        | (_, '.' :: _) =>
          if groupCount ≤ groups.length + 1 then none
          else (readDecimalGroups? cs).map fun last => (groups ++ last, gap)
        | (digits, ':' :: c :: rest) =>
          readGroups fuel (groups ++ [groupValue digits]) gap (c :: rest)
        | _ => none

/-- Reads an address. Only whether groups are left out is kept of the gap: where it is does not
matter to whether the address is all zeros. -/
def readAddress? (cs : List Char) : Option (List Nat) :=
  let found := match cs with
    | ':' :: ':' :: rest => readGroups (rest.length + 1) [0] true rest
    | ':' :: _ => none
    | cs => readGroups (cs.length + 1) [] false cs
  match found with
  | some (groups, gap) => if gap || groups.length = groupCount then some groups else none
  | none => none

end Coordination.Url
