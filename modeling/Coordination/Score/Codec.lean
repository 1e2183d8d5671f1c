import Coordination.Json.Record
import Coordination.Score.Basic

/-!
# Scores in JSON

A score is an object with eleven members, in which modes, statuses and mods are numbers.
-/

namespace Coordination

/-- A score of which fields may still be missing. -/
structure ScoreDraft where
  id : Option ScoreId := none
  beatmap : Option String := none
  player : Option UserId := none
  mode : Option GameMode := none
  score : Option UInt64 := none
  pp : Option Float := none
  accuracy : Option Float := none
  maxCombo : Option UInt32 := none
  misses : Option UInt32 := none
  mods : Option Mods := none
  status : Option SubmissionStatus := none

namespace ScoreDraft

def build (d : ScoreDraft) : Option Score := do
  return {
    id := ← d.id, beatmap := ← d.beatmap, player := ← d.player, mode := ← d.mode
    score := ← d.score, pp := ← d.pp, accuracy := ← d.accuracy, maxCombo := ← d.maxCombo
    misses := ← d.misses, mods := ← d.mods, status := ← d.status }

open Json in
def fields : List (Json.Field ScoreDraft) := [
  .of "id" readI64 ScoreDraft.id fun a d => { d with id := some a },
  .of "map_md5" readText ScoreDraft.beatmap fun a d => { d with beatmap := some a },
  .of "user_id" readI64 ScoreDraft.player fun a d => { d with player := some a },
  .of "mode" (readCode GameMode.ofNat? GameMode.unknownMessage) ScoreDraft.mode
    fun a d => { d with mode := some a },
  .of "score" readU64 ScoreDraft.score fun a d => { d with score := some a },
  .of "pp" readF64 ScoreDraft.pp fun a d => { d with pp := some a },
  .of "acc" readF64 ScoreDraft.accuracy fun a d => { d with accuracy := some a },
  .of "max_combo" readU32 ScoreDraft.maxCombo fun a d => { d with maxCombo := some a },
  .of "nmiss" readU32 ScoreDraft.misses fun a d => { d with misses := some a },
  .of "mods" readU32 (fun d => d.mods.map Mods.bits) fun a d => { d with mods := some ⟨a⟩ },
  .of "status" (readCode SubmissionStatus.ofNat? SubmissionStatus.unknownMessage)
    ScoreDraft.status fun a d => { d with status := some a }]

end ScoreDraft

namespace Score

def schema : Json.Schema ScoreDraft Score := ⟨"ScoreRecord", ScoreDraft.fields, {}, ScoreDraft.build⟩

/-- Reads a text that is one score. -/
def decode (text : String) : Except Json.Fault Score := Json.decode schema.read text

def encode (s : Score) : String :=
  Json.writeObject [
    ("id", toString s.id),
    ("map_md5", Json.writeString s.beatmap),
    ("user_id", toString s.player),
    ("mode", toString s.mode.toNat),
    ("score", toString s.score),
    ("pp", Json.writeFloat s.pp),
    ("acc", Json.writeFloat s.accuracy),
    ("max_combo", toString s.maxCombo),
    ("nmiss", toString s.misses),
    ("mods", toString s.mods.bits),
    ("status", toString s.status.toNat)]

end Score

end Coordination
