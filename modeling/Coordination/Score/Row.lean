import Coordination.Score.Ranking

/-!
# Scores as database rows

The database keeps a score in signed columns. A row is a score if its mode and status have a
meaning and its counts are not negative; mods are the same 32 bits read without a sign.
-/

namespace Coordination

/-- A value as the database sends it, with its SQL type. -/
inductive SqlValue where
  | null
  | int2 (n : Int16)
  | int4 (n : Int32)
  | int8 (n : Int64)
  | float4 (x : Float32)
  | float8 (x : Float)
  | text (s : String)

/-- The columns of a row by name. -/
abbrev SqlRow := List (String × SqlValue)

namespace SqlRow

/-- A column of type `smallint`. -/
def int2 (r : SqlRow) (column : String) : Except StoreError Int16 :=
  match r.lookup column with
  | some (.int2 n) => .ok n
  | _ => .error .database

/-- A column of type `integer`. -/
def int4 (r : SqlRow) (column : String) : Except StoreError Int32 :=
  match r.lookup column with
  | some (.int4 n) => .ok n
  | _ => .error .database

/-- A column of type `bigint`. -/
def int8 (r : SqlRow) (column : String) : Except StoreError Int64 :=
  match r.lookup column with
  | some (.int8 n) => .ok n
  | _ => .error .database

/-- A column of type `double precision`. -/
def float8 (r : SqlRow) (column : String) : Except StoreError Float :=
  match r.lookup column with
  | some (.float8 x) => .ok x
  | _ => .error .database

def text (r : SqlRow) (column : String) : Except StoreError String :=
  match r.lookup column with
  | some (.text s) => .ok s
  | _ => .error .database

end SqlRow

/-- A mode, or what is wrong with the column. -/
def GameMode.ofColumn (n : Int16) : Except StoreError GameMode :=
  if n < 0 ∨ 255 < n then .error (.corrupt s!"mode {n}")
  else
    match GameMode.ofNat? n.toInt.toNat with
    | some mode => .ok mode
    | none => .error (.corrupt (GameMode.unknownMessage n.toInt.toNat))

/-- A status, or what is wrong with the column. -/
def SubmissionStatus.ofColumn (n : Int16) : Except StoreError SubmissionStatus :=
  if n < 0 ∨ 255 < n then .error (.corrupt s!"status {n}")
  else
    match SubmissionStatus.ofNat? n.toInt.toNat with
    | some status => .ok status
    | none => .error (.corrupt (SubmissionStatus.unknownMessage n.toInt.toNat))

/-- A number that must not be negative. -/
def nonNegative (column : String) (n : Int) : Except StoreError Nat :=
  if n < 0 then .error (.corrupt s!"{column} {n}") else .ok n.toNat

/-- The score of a row. Modes and statuses are judged once all numeric columns have been read;
the other columns are read and judged in the order of the score's fields. -/
def Score.ofRow (r : SqlRow) : Except StoreError Score := do
  let mode ← r.int2 "mode"
  let status ← r.int2 "status"
  let score ← r.int8 "score"
  let maxCombo ← r.int4 "max_combo"
  let misses ← r.int4 "nmiss"
  let mods ← r.int4 "mods"
  let mode ← GameMode.ofColumn mode
  let status ← SubmissionStatus.ofColumn status
  let id ← r.int8 "id"
  let beatmap ← r.text "map_md5"
  let player ← r.int8 "userid"
  let score ← nonNegative "score" score.toInt
  let pp ← r.float8 "pp"
  let accuracy ← r.float8 "acc"
  let maxCombo ← nonNegative "max_combo" maxCombo.toInt
  let misses ← nonNegative "nmiss" misses.toInt
  return {
    id, beatmap, player, mode, pp, accuracy, status
    score := score.toUInt64, maxCombo := maxCombo.toUInt32, misses := misses.toUInt32
    mods := ⟨mods.toUInt32⟩ }

/-- A row of the table of scores with every column at its type. -/
structure ScoreRow where
  id : Int64
  beatmap : String
  player : Int64
  mode : Int16
  score : Int64
  pp : Float
  accuracy : Float
  maxCombo : Int32
  misses : Int32
  mods : Int32
  status : Int16

/-- The row as the database sends it. -/
def ScoreRow.columns (r : ScoreRow) : SqlRow := [
  ("id", .int8 r.id), ("map_md5", .text r.beatmap), ("userid", .int8 r.player),
  ("mode", .int2 r.mode), ("score", .int8 r.score), ("pp", .float8 r.pp),
  ("acc", .float8 r.accuracy), ("max_combo", .int4 r.maxCombo), ("nmiss", .int4 r.misses),
  ("mods", .int4 r.mods), ("status", .int2 r.status)]

/-- The row that a score is kept in. -/
def Score.toRow (s : Score) : ScoreRow where
  id := s.id
  beatmap := s.beatmap
  player := s.player
  mode := Int16.ofNat s.mode.toNat
  score := s.score.toInt64
  pp := s.pp
  accuracy := s.accuracy
  maxCombo := s.maxCombo.toInt32
  misses := s.misses.toInt32
  mods := s.mods.bits.toInt32
  status := Int16.ofNat s.status.toNat

end Coordination
