import Coordination.Environment
import Coordination.Log.Basic
import Coordination.Text.Alphanumeric
import Coordination.Text.Blank
import Coordination.Text.Numeral

/-!
# Log filters

A filter says up to which level the records of each target are let through. It is written as
directives with commas between them, such as `warn,store=debug`. The directive with the longest
target that a record's target starts with decides; without one the record is held back.

A directive can also name a field that records must have, `store[{count}]=debug`, or the span
that they are made in, `store[query]=debug`, or the value that a field of the span must have.
-/

namespace Coordination

/-- How much is let through. -/
inductive LogLimit where
  | off
  /-- The level and all that are more urgent. -/
  | upTo (level : LogLevel)
deriving DecidableEq, Repr

namespace LogLimit

def admits : LogLimit → LogLevel → Bool
  | off, _ => false
  | upTo last, level => level.verbosity ≤ last.verbosity

/-- The limits in the order of their numbers. -/
def all : List LogLimit :=
  [off, upTo .error, upTo .warn, upTo .info, upTo .debug, upTo .trace]

def name : LogLimit → String
  | off => "OFF"
  | upTo level => level.text

/-- Reads a limit's number, or its name in any case. -/
def ofText? (cs : List Char) : Option LogLimit :=
  match Text.readUnsigned? cs with
  | some n => all[n]?
  | none => all.find? fun limit => limit.name.toList == cs.map Char.toUpper

end LogLimit

/-- What is let through of some records. -/
structure LogDirective where
  /-- What the records' targets start with. -/
  target : Option String := none
  /-- The span that the records are made in. -/
  span : Option String := none
  /-- A field, and perhaps the value that it has in the span. -/
  field : Option (String × Option String) := none
  limit : LogLimit := .upTo .trace
deriving DecidableEq, Repr

namespace LogDirective

/-- The part of a directive that is being read, with the place where it began. Places are
counted in bytes. -/
inductive Part where
  | start
  /-- A limit or a target. -/
  | word (start : Nat)
  | span (start : Nat)
  | field (start : Nat)
  /-- After a field: only the bracket of the span may follow. -/
  | afterField
  /-- After the bracket: only an equals sign may follow. -/
  | afterSpan
  | limit (start : Nat)
deriving DecidableEq, Repr

/-- The bytes of a text from one place to another, if they are whole characters. -/
def slice? (text : String) (start stop : Nat) : Option String :=
  String.fromUTF8? (text.toUTF8.extract start stop)

/-- Reads a field with or without a value. It must not be empty. -/
def readField? (text : String) : Option (String × Option String) :=
  if text = "" then none
  else
    match text.splitOn "=" with
    | name :: value :: _ => some (name, some value)
    | _ => some (text, none)

/-- Reads the character at a place of a directive. -/
def step (text : String) (d : LogDirective) (part : Part) (place : Nat) (c : Char) :
    Option (LogDirective × Part) :=
  match part, c with
  | .start, '[' => some (d, .span (place + 1))
  | .start, c =>
    if c == '-' || c == ':' || c == '_' || Text.isAlphanumeric c then some (d, .word place)
    else none
  | .word start, '=' =>
    (slice? text start place).map fun target =>
      ({ d with target := some target }, .limit (place + 1))
  | .word start, '[' =>
    (slice? text start place).map fun target =>
      ({ d with target := some target }, .span (place + 1))
  | .word start, _ => some (d, .word start)
  | .span start, ']' =>
    (slice? text start place).map fun span => ({ d with span := some span }, .afterSpan)
  | .span start, '\x7b' =>
    (slice? text start place).map fun span =>
      ({ d with span := if span = "" then none else some span }, .field (place + 1))
  | .span start, _ => some (d, .span start)
  | .field start, '\x7d' =>
    ((slice? text start place).bind readField?).map fun field =>
      ({ d with field := some field }, .afterField)
  | .field start, _ => some (d, .field start)
  | .afterField, ']' => some (d, .afterSpan)
  | .afterField, _ => none
  | .afterSpan, '=' => some (d, .limit (place + 1))
  | .afterSpan, _ => none
  | .limit start, _ => some (d, .limit start)

/-- Reads the characters of a directive from a place on. -/
def readFrom (text : String) (d : LogDirective) (part : Part) (place : Nat) :
    List Char → Option (LogDirective × Part)
  | [] => some (d, part)
  | c :: cs =>
    match step text d part place c with
    | some (d, part) => readFrom text d part (place + c.utf8Size) cs
    | none => none

/-- Completes a directive with the part that it ends in. A word is a limit, or else a target of
which everything is let through. A limit that is left out lets everything through. -/
def finish (text : String) (d : LogDirective) : Part → Option LogDirective
  | .word start =>
    (slice? text start text.utf8ByteSize).map fun word =>
      match LogLimit.ofText? word.toList with
      | some limit => { d with limit }
      | none => { d with target := some word }
  | .limit start =>
    (slice? text start text.utf8ByteSize).bind fun word =>
      if word = "" then some d
      else (LogLimit.ofText? word.toList).map fun limit => { d with limit }
  | _ => some d

/-- Reads a directive. Blanks around it are not looked at, but they keep their places: what is
cut out of the directive is cut out of the text with the blanks, at places counted from the
first character that is none. -/
def ofText? (text : String) : Option LogDirective :=
  (readFrom text {} .start 0 (Text.trim text.toList)).bind fun (d, part) => finish text d part

/-- Whether the directive speaks of records that are made outside of spans. -/
def isPlain (d : LogDirective) : Bool :=
  d.span.isNone && d.field.all fun (_, value) => value.isNone

/-- Whether the directive speaks of records with a target and fields. -/
def covers (d : LogDirective) (target : String) (fields : List String) : Bool :=
  (d.target.all fun start => start.toList.isPrefixOf target.toList) &&
    d.field.all fun (name, _) => fields.contains name

/-- How much the directive says about targets: nothing, or the length of what they start with. -/
def targetRank (d : LogDirective) : Nat :=
  match d.target with
  | none => 0
  | some start => start.length + 1

/-- What the directive says about fields: nothing, or a name. -/
def fieldRank (d : LogDirective) : List String :=
  match d.field with
  | none => []
  | some (name, _) => [name]

end LogDirective

structure LogFilter where
  directives : List LogDirective
deriving DecidableEq, Repr

namespace LogFilter

/-- Of two directives the one that decides: the one with the longer target, or else the one with
a field, or else the one whose field comes later in the alphabet, or else the later one. -/
def moreSpecific (a b : LogDirective) : LogDirective :=
  if b.targetRank < a.targetRank then a
  else if a.targetRank = b.targetRank ∧ b.fieldRank < a.fieldRank then a
  else b

/-- The directive that decides about the records with a target and fields. -/
def deciding? (f : LogFilter) (target : String) (fields : List String) : Option LogDirective :=
  match f.directives.filter fun d => d.isPlain && d.covers target fields with
  | [] => none
  | d :: rest => some (rest.foldl moreSpecific d)

/-- Whether a record is let through. -/
def admits (f : LogFilter) (target : String) (fields : List String) (level : LogLevel) : Bool :=
  (f.deciding? target fields).any fun d => d.limit.admits level

/-- The written directives. -/
def pieces (text : String) : List String := (text.splitOn ",").filter (· ≠ "")

/-- Reads a filter in which every directive must be right. -/
def parse? (text : String) : Option LogFilter :=
  ((pieces text).mapM LogDirective.ofText?).map LogFilter.mk

/-- Reads a filter and passes over what is no directive. If none is left, errors are let
through. -/
def parseLenient (text : String) : LogFilter :=
  match (pieces text).filterMap LogDirective.ofText? with
  | [] => ⟨[{ limit := .upTo .error }]⟩
  | directives => ⟨directives⟩

/-- The environment's filter, or else the configured one. -/
def ofEnvironment (env : Environment) (configured : String) : LogFilter :=
  ((env.value? "RUST_LOG").bind parse?).getD (parseLenient configured)

end LogFilter

end Coordination
