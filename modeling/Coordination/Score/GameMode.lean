/-!
# Game modes

A mode is one of four rulesets, played plainly or with an assist. Assisted modes have
leaderboards of their own, which are ordered by performance points.
-/

namespace Coordination

/-- The value by which a leaderboard is ordered. -/
inductive Metric where
  | score
  | pp
deriving DecidableEq, Repr

/-- The column that holds the value. -/
def Metric.column : Metric → String
  | .score => "score"
  | .pp => "pp"

inductive GameMode where
  | vanillaOsu
  | vanillaTaiko
  | vanillaCatch
  | vanillaMania
  | relaxOsu
  | relaxTaiko
  | relaxCatch
  | autopilotOsu
deriving DecidableEq, Repr

namespace GameMode

def all : List GameMode :=
  [vanillaOsu, vanillaTaiko, vanillaCatch, vanillaMania, relaxOsu, relaxTaiko, relaxCatch,
    autopilotOsu]

/-- The number of a mode. There is no relax variant of the fourth ruleset, so 7 is free. -/
def toNat : GameMode → Nat
  | vanillaOsu => 0
  | vanillaTaiko => 1
  | vanillaCatch => 2
  | vanillaMania => 3
  | relaxOsu => 4
  | relaxTaiko => 5
  | relaxCatch => 6
  | autopilotOsu => 8

def ofNat? (n : Nat) : Option GameMode := all.find? fun mode => mode.toNat == n

/-- What is said of a number that is no mode. -/
def unknownMessage (n : Nat) : String := s!"unknown game mode {n}"

@[simp] theorem ofNat?_toNat (mode : GameMode) : ofNat? mode.toNat = some mode := by
  cases mode <;> rfl

theorem toNat_of_ofNat? {n : Nat} {mode : GameMode} (h : ofNat? n = some mode) :
    mode.toNat = n := by
  simpa using List.find?_some h

/-- Assisted modes are ranked by performance points. -/
def metric (mode : GameMode) : Metric :=
  if 4 ≤ mode.toNat then .pp else .score

/-- The plain mode of the same ruleset. -/
def ruleset : GameMode → GameMode
  | vanillaOsu | relaxOsu | autopilotOsu => vanillaOsu
  | vanillaTaiko | relaxTaiko => vanillaTaiko
  | vanillaCatch | relaxCatch => vanillaCatch
  | vanillaMania => vanillaMania

end GameMode

end Coordination
