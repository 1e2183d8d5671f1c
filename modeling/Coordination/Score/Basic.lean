import Coordination.Identity
import Coordination.Score.GameMode
import Coordination.Score.Mods

/-!
# Scores

A played score as it is stored, and what it is measured by.
-/

namespace Coordination

/-- What became of a play. -/
inductive SubmissionStatus where
  | failed
  | submitted
  /-- The player's best play of the beatmap in this mode. Only these are ranked. -/
  | best
deriving DecidableEq, Repr

namespace SubmissionStatus

def all : List SubmissionStatus := [failed, submitted, best]

def toNat : SubmissionStatus → Nat
  | failed => 0
  | submitted => 1
  | best => 2

def ofNat? (n : Nat) : Option SubmissionStatus := all.find? fun status => status.toNat == n

/-- What is said of a number that is no status. -/
def unknownMessage (n : Nat) : String := s!"unknown submission status {n}"

@[simp] theorem ofNat?_toNat (status : SubmissionStatus) :
    ofNat? status.toNat = some status := by
  cases status <;> rfl

theorem toNat_of_ofNat? {n : Nat} {status : SubmissionStatus} (h : ofNat? n = some status) :
    status.toNat = n := by
  simpa using List.find?_some h

end SubmissionStatus

structure Score where
  id : ScoreId
  /-- The checksum that names the beatmap. -/
  beatmap : String
  player : UserId
  mode : GameMode
  score : UInt64
  pp : Float
  accuracy : Float
  maxCombo : UInt32
  misses : UInt32
  mods : Mods
  status : SubmissionStatus

/-- A value on one of the two scales. -/
inductive MetricValue where
  | score (value : UInt64)
  | pp (value : Float)

namespace MetricValue

def metric : MetricValue → Metric
  | score _ => .score
  | pp _ => .pp

/-- Whether the score is strictly greater on the same scale. -/
def beatenBy (value : MetricValue) (s : Score) : Bool :=
  match value with
  | score v => decide (v < s.score)
  | pp v => decide (v < s.pp)

end MetricValue

/-- The place at which a value competes: the leaderboard of a beatmap and mode. -/
structure Standing where
  beatmap : String
  mode : GameMode
  value : MetricValue

namespace Score

/-- What the mode's leaderboard compares. -/
def metricValue (s : Score) : MetricValue :=
  match s.mode.metric with
  | .score => .score s.score
  | .pp => .pp s.pp

def standing (s : Score) : Standing := ⟨s.beatmap, s.mode, s.metricValue⟩

end Score

end Coordination
