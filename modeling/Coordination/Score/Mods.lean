/-!
# Mods

The modifiers a score was played with, as a set of bits, and the short text that lists them.
A mod that another one includes is not listed beside it.
-/

namespace Coordination

/-- A known modifier. -/
inductive Modifier where
  | noFail
  | easy
  | touchscreen
  | hidden
  | hardRock
  | suddenDeath
  | doubleTime
  | relax
  | halfTime
  | nightcore
  | flashlight
  | autoplay
  | spunOut
  | autopilot
  | perfect
deriving DecidableEq, Repr

namespace Modifier

/-- In ascending order of their bits. -/
def all : List Modifier :=
  [noFail, easy, touchscreen, hidden, hardRock, suddenDeath, doubleTime, relax, halfTime,
    nightcore, flashlight, autoplay, spunOut, autopilot, perfect]

/-- The position of the modifier's bit. -/
def bit : Modifier → Nat
  | noFail => 0
  | easy => 1
  | touchscreen => 2
  | hidden => 3
  | hardRock => 4
  | suddenDeath => 5
  | doubleTime => 6
  | relax => 7
  | halfTime => 8
  | nightcore => 9
  | flashlight => 10
  | autoplay => 11
  | spunOut => 12
  | autopilot => 13
  | perfect => 14

def acronym : Modifier → String
  | noFail => "NF"
  | easy => "EZ"
  | touchscreen => "TD"
  | hidden => "HD"
  | hardRock => "HR"
  | suddenDeath => "SD"
  | doubleTime => "DT"
  | relax => "RX"
  | halfTime => "HT"
  | nightcore => "NC"
  | flashlight => "FL"
  | autoplay => "AU"
  | spunOut => "SO"
  | autopilot => "AP"
  | perfect => "PF"

/-- The modifier that includes this one. -/
def includedIn? : Modifier → Option Modifier
  | doubleTime => some nightcore
  | suddenDeath => some perfect
  | _ => none

end Modifier

/-- A set of modifiers, some of which may be unknown. -/
structure Mods where
  bits : UInt32
deriving DecidableEq, Repr

namespace Mods

def isEmpty (m : Mods) : Bool := m.bits == 0

/-- Whether every modifier of `other` is one of `m`. -/
def contains (m other : Mods) : Bool := m.bits &&& other.bits == other.bits

def has (m : Mods) (x : Modifier) : Bool := m.bits.toNat.testBit x.bit

/-- The modifiers that the text lists: the known ones that no other one includes. -/
def listed (m : Mods) : List Modifier :=
  Modifier.all.filter fun x => m.has x && !(x.includedIn?.any m.has)

/-- The acronyms without a space between them, or `NM` for a play without any modifier. -/
def text (m : Mods) : String :=
  if m.isEmpty then "NM" else String.join (m.listed.map Modifier.acronym)

example : text ⟨72⟩ = "HDDT" := by decide +kernel
example : text ⟨584⟩ = "HDNC" := by decide +kernel

end Mods

end Coordination
