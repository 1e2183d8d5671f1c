import Coordination.Json.Record
import Coordination.Performance.Request

/-!
# Performance results in JSON

The result of a play is an object of two objects, and so is what the performance service
answers.
-/

namespace Coordination

open Json

/-! ## The result of a play -/

structure ScoreResultDraft where
  /-- The points, and those at full combo. -/
  performance : Option (Float × Option Float) := none
  stars : Option Float := none

structure PerformanceValuesDraft where
  pp : Option Float := none
  hypotheticalPp : Option (Option Float) := none

def performanceValuesSchema : Schema PerformanceValuesDraft (Float × Option Float) where
  name := "PerformanceValues"
  fields := [
    .of "pp" readF64 PerformanceValuesDraft.pp fun a d => { d with pp := some a },
    .of "hypothetical_pp" (readOptional readF64) PerformanceValuesDraft.hypotheticalPp
      (fun a d => { d with hypotheticalPp := some a }) true]
  empty := {}
  build d := d.pp.map fun pp => (pp, d.hypotheticalPp.join)

def difficultyValuesSchema : Schema (Option Float) Float where
  name := "DifficultyValues"
  fields := [.of "stars" readF64 id fun a _ => some a]
  empty := none
  build := id

namespace ScoreResult

def schema : Schema ScoreResultDraft ScoreResult where
  name := "ScoreResult"
  fields := [
    .of "performance" performanceValuesSchema.read ScoreResultDraft.performance
      fun a d => { d with performance := some a },
    .of "difficulty" difficultyValuesSchema.read ScoreResultDraft.stars
      fun a d => { d with stars := some a }]
  empty := {}
  build d := do
    let (pp, hypotheticalPp) ← d.performance
    return { pp, hypotheticalPp, stars := ← d.stars }

/-- Reads a text that is the result of one play. -/
def decode (text : String) : Except Fault ScoreResult := Json.decode schema.read text

def encode (r : ScoreResult) : String :=
  writeObject [
    ("performance", writeObject [
      ("pp", writeFloat r.pp),
      ("hypothetical_pp", (r.hypotheticalPp.map writeFloat).getD "null")]),
    ("difficulty", writeObject [("stars", writeFloat r.stars)])]

end ScoreResult

/-! ## The service's answer -/

structure PerformanceResultDraft where
  stars : Option Float := none
  pp : Option Float := none

namespace PerformanceResult

def schema : Schema PerformanceResultDraft PerformanceResult where
  name := "PerformanceResult"
  fields := [
    .of "stars" readF64 PerformanceResultDraft.stars fun a d => { d with stars := some a },
    .of "pp" readF64 PerformanceResultDraft.pp fun a d => { d with pp := some a }]
  empty := {}
  build d := do return { stars := ← d.stars, pp := ← d.pp }

/-- The envelope in which the service sends a result. -/
def envelopeSchema : Schema (Option PerformanceResult) PerformanceResult where
  name := "CalculateResponse"
  fields := [.of "data" schema.read id fun a _ => some a]
  empty := none
  build := id

/-- Reads a text that is the service's answer. -/
def decodeAnswer (text : String) : Except Fault PerformanceResult :=
  Json.decode envelopeSchema.read text

end PerformanceResult

end Coordination
