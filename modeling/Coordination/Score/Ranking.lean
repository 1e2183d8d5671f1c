import Coordination.Failure
import Coordination.Score.Store

/-!
# Leaderboard placement

A score is placed one behind the ranked scores that are strictly ahead of it, so equal scores
share a placement. Whatever answers the three questions below can be ranked over.
-/

namespace Coordination

/-- Why storage has no answer. -/
inductive StoreError where
  | createPool
  | pool
  | database
  /-- A row held a value that no score can have. -/
  | corrupt (detail : String)
deriving DecidableEq, Repr

def StoreError.message : StoreError → String
  | .createPool => "Failed to create connection pool"
  | .pool => "Connection pool error"
  | .database => "Database error"
  | .corrupt detail => "Corrupt row: " ++ detail

inductive RankingError where
  | scoreNotFound (id : ScoreId)
  | store (e : StoreError)
deriving DecidableEq, Repr

def RankingError.message : RankingError → String
  | .scoreNotFound id => s!"Score {id} not found"
  | .store e => e.message

/-- Read access to stored scores. -/
structure Repository where
  /-- How many ranked scores are strictly ahead. -/
  countBetter : Standing → Except StoreError UInt64
  score? : ScoreId → Except StoreError (Option Score)
  beatmapText? : String → Except StoreError (Option String)

namespace Repository

/-- The repository that reads a store. -/
def ofStore (t : ScoreStore) : Repository where
  countBetter q := .ok (UInt64.ofNat (t.countBetter q))
  score? id := .ok (t.score? id)
  beatmapText? checksum := .ok ((t.beatmapName? checksum).map BeatmapName.text)

/-- The 32-bit placement behind `better` scores. A count beyond 32 bits is placed last. The sum is
checked, and one count of 32 bits is too great for it. -/
def placementBehind (better : UInt64) : Except (Failure RankingError) UInt32 :=
  let count := if better.toNat < UInt32.size then better.toUInt32 else 0xFFFFFFFE
  if count.toNat + 1 < UInt32.size then .ok (count + 1) else .error .overflow

def placement (r : Repository) (s : Score) : Except (Failure RankingError) UInt32 :=
  match r.countBetter s.standing with
  | .ok better => placementBehind better
  | .error e => .error (.error (.store e))

/-- A stored score with its placement. -/
def placementOf (r : Repository) (id : ScoreId) :
    Except (Failure RankingError) (Score × UInt32) :=
  match r.score? id with
  | .error e => .error (.error (.store e))
  | .ok none => .error (.error (.scoreNotFound id))
  | .ok (some s) => (r.placement s).map (s, ·)

end Repository

end Coordination
