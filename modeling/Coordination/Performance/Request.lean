import Coordination.Decimal.Layout

/-!
# Performance calculations

What the performance service is asked about a play, and what it answers.
-/

namespace Coordination

/-- One calculation. What is not set is left to the service's defaults. -/
structure PerformanceRequest where
  beatmapId : UInt32
  mode : UInt8
  mods : Option UInt32 := none
  maxCombo : Option UInt32 := none
  accuracy : Option Float := none
  missCount : Option UInt32 := none
  legacyScore : Option UInt64 := none
  passedObjects : Option UInt32 := none

namespace PerformanceRequest

/-- The same play at full combo and without a miss. -/
def hypothetical (r : PerformanceRequest) : PerformanceRequest :=
  { r with maxCombo := none, missCount := some 0 }

/-- The request as it is sent. The service knows the four rulesets only. -/
def forWire (r : PerformanceRequest) : PerformanceRequest := { r with mode := r.mode % 4 }

/-- The fields that are set, in their order, as names and texts. -/
def fields (r : PerformanceRequest) : List (String × String) :=
  [("beatmap_id", toString r.beatmapId), ("mode", toString r.mode)] ++
  (r.mods.map fun n => ("mods", toString n)).toList ++
  (r.maxCombo.map fun n => ("max_combo", toString n)).toList ++
  (r.accuracy.map fun x => ("accuracy", Decimal.Layout.query.write x)).toList ++
  (r.missCount.map fun n => ("miss_count", toString n)).toList ++
  (r.legacyScore.map fun n => ("legacy_score", toString n)).toList ++
  (r.passedObjects.map fun n => ("passed_objects", toString n)).toList

/-- The query that carries the request. No text in it needs escaping. -/
def query (r : PerformanceRequest) : String :=
  "&".intercalate (r.forWire.fields.map fun (name, value) => name ++ "=" ++ value)

end PerformanceRequest

/-- What the service answers. -/
structure PerformanceResult where
  stars : Float := 0
  pp : Float := 0

namespace PerformanceResult

def zero : PerformanceResult := {}

/-- Zeros of either sign count. -/
def isZero (r : PerformanceResult) : Bool := r.stars == 0 && r.pp == 0

end PerformanceResult

/-- A play, of which a batch calculates many on one beatmap. -/
structure Play where
  mode : UInt8 := 0
  mods : Option UInt32 := none
  combo : Option UInt32 := none
  accuracy : Option Float := none
  misses : Option UInt32 := none
  legacyScore : Option UInt64 := none
  passedObjects : Option UInt32 := none

namespace Play

/-- The accuracy that is asked about. A play without one counts as perfect, and so does one
whose accuracy is zero. -/
def effectiveAccuracy (p : Play) : Float :=
  match p.accuracy with
  | some accuracy => if accuracy == 0 then 100 else accuracy
  | none => 100

def request (p : Play) (beatmapId : UInt32) : PerformanceRequest where
  beatmapId
  mode := p.mode
  mods := p.mods
  maxCombo := p.combo
  accuracy := some p.effectiveAccuracy
  missCount := p.misses
  legacyScore := p.legacyScore
  passedObjects := p.passedObjects

end Play

/-- What a batch says about one play. -/
structure ScoreResult where
  pp : Float
  /-- The points of the same play at full combo, if they were asked for. -/
  hypotheticalPp : Option Float
  stars : Float

def ScoreResult.of (r : PerformanceResult) (hypotheticalPp : Option Float) : ScoreResult :=
  ⟨r.pp, hypotheticalPp, r.stars⟩

end Coordination
