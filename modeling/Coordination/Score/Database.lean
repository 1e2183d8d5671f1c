import Coordination.Score.Row

/-!
# The score database

The repository that asks a database. Its queries are SQL texts with parameters; what the count
query means is stated beside it, as the test that a row of scores has to pass.
-/

namespace Coordination

structure SqlQuery where
  text : String
  params : List SqlValue

/-! ## Queries -/

/-- The query for one score. -/
def fetchQuery (id : ScoreId) : SqlQuery where
  text := "SELECT id, map_md5, userid, mode, score, pp, acc, max_combo, nmiss, mods, status" ++
    " FROM scores WHERE id = $1"
  params := [.int8 id]

/-- The query for a beatmap's name. -/
def beatmapQuery (checksum : String) : SqlQuery where
  text := "SELECT artist, title, version FROM maps WHERE md5 = $1"
  params := [.text checksum]

/-- The value that scores have to be above, in the type of its column. -/
inductive Threshold where
  | score (n : Int64)
  | pp (x : Float)

/-- The question how many scores are ahead, as the database is asked it. -/
structure CountQuery where
  beatmap : String
  mode : Int16
  threshold : Threshold

namespace CountQuery

/-- No stored score is above the largest `bigint`, so that stands for anything larger. -/
def ofStanding (q : Standing) : CountQuery where
  beatmap := q.beatmap
  mode := Int16.ofNat q.mode.toNat
  threshold := match q.value with
    | .score v => .score (if v.toNat ≤ Int64.maxValue.toNatClampNeg then v.toInt64 else Int64.maxValue)
    | .pp v => .pp v

def metric (q : CountQuery) : Metric :=
  match q.threshold with
  | .score _ => .score
  | .pp _ => .pp

def sql (q : CountQuery) : SqlQuery where
  text := "SELECT COUNT(*) FROM scores s INNER JOIN users u ON u.id = s.userid" ++
    s!" WHERE s.map_md5 = $1 AND s.mode = $2 AND s.status = {SubmissionStatus.best.toNat}" ++
    s!" AND (u.priv & {Privileges.unrestrictedBit}) <> 0 AND s.{q.metric.column} > $3"
  params := [.text q.beatmap, .int2 q.mode, match q.threshold with
    | .score n => .int8 n
    | .pp x => .float8 x]

/-- A row of the table of users. -/
structure UserRow where
  id : Int64
  privileges : Int32

/-- Whether a user's row passes the query's test on privileges. -/
def admits (u : UserRow) : Bool := u.privileges &&& 1 != 0

/-- Whether a score's row is above the threshold. -/
def exceeds (q : CountQuery) (r : ScoreRow) : Bool :=
  match q.threshold with
  | .score n => decide (n < r.score)
  | .pp x => decide (x < r.pp)

/-- Whether the query counts a score's row together with a user's row. -/
def counts (q : CountQuery) (r : ScoreRow) (u : UserRow) : Bool :=
  u.id == r.player && r.beatmap == q.beatmap && r.mode == q.mode &&
    r.status == Int16.ofNat SubmissionStatus.best.toNat && admits u && q.exceeds r

/-- The count over two tables: the pairs of rows that pass. -/
def count (q : CountQuery) (scores : List ScoreRow) (users : List UserRow) : Nat :=
  (scores.flatMap fun r => users.map fun u => (r, u)).countP fun (r, u) => q.counts r u

end CountQuery

/-! ## The repository -/

/-- A database answers a query with rows, or rejects it. -/
structure Database where
  run : SqlQuery → Option (List SqlRow)

namespace Database

/-- At most one row. -/
def rowAtMost (d : Database) (q : SqlQuery) : Except StoreError (Option SqlRow) :=
  match d.run q with
  | some [] => .ok none
  | some [r] => .ok (some r)
  | some _ | none => .error .database

/-- Exactly one row. -/
def row (d : Database) (q : SqlQuery) : Except StoreError SqlRow :=
  match d.rowAtMost q with
  | .ok (some r) => .ok r
  | .ok none => .error .database
  | .error e => .error e

/-- The count of a row whose one column is a count. -/
def countOfRow : SqlRow → Except StoreError UInt64
  | (_, .int8 n) :: _ => .ok (max n.toInt 0).toNat.toUInt64
  | _ => .error .database

/-- The name in a beatmap's row. -/
def beatmapOfRow (r : SqlRow) : Except StoreError BeatmapName := do
  let artist ← r.text "artist"
  let title ← r.text "title"
  let version ← r.text "version"
  return { artist, title, version }

end Database

/-- The repository over a database, or over none that can be reached. -/
def Repository.ofDatabase : Option Database → Repository
  | none => ⟨fun _ => .error .pool, fun _ => .error .pool, fun _ => .error .pool⟩
  | some d => {
      countBetter := fun q => (d.row (CountQuery.ofStanding q).sql).bind Database.countOfRow
      score? := fun id => (d.rowAtMost (fetchQuery id)).bind fun
        | some r => (Score.ofRow r).map some
        | none => .ok none
      beatmapText? := fun checksum => (d.rowAtMost (beatmapQuery checksum)).bind fun
        | some r => (Database.beatmapOfRow r).map fun b => some b.text
        | none => .ok none }

/-- A pool that has not been used yet. -/
def describePool (maxConnections : Nat) : String :=
  s!"PgScoreRepository \x7b pool: Status \x7b max_size: {maxConnections}, size: 0, available: 0, waiting: 0 \x7d \x7d"

def describeRanking : String := "RankingEngine \x7b .. \x7d"

end Coordination
