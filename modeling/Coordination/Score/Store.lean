import Std.Data.ExtTreeMap
import Coordination.Score.Basic

/-!
# Score storage

The tables of scores, privileges and beatmap names. Each is determined by the last write per
key, so two stores with the same entries are equal.
-/

namespace Coordination

structure BeatmapName where
  artist : String
  title : String
  version : String
deriving DecidableEq, Repr

def BeatmapName.text (b : BeatmapName) : String := s!"{b.artist} - {b.title} [{b.version}]"

structure ScoreStore where
  scores : Std.ExtTreeMap ScoreId Score := ∅
  privileges : Std.ExtTreeMap UserId Privileges := ∅
  beatmaps : Std.ExtTreeMap String BeatmapName := ∅

namespace ScoreStore

def insertScore (t : ScoreStore) (s : Score) : ScoreStore :=
  { t with scores := t.scores.insert s.id s }

def setPrivileges (t : ScoreStore) (user : UserId) (p : Privileges) : ScoreStore :=
  { t with privileges := t.privileges.insert user p }

def insertBeatmap (t : ScoreStore) (checksum : String) (name : BeatmapName) : ScoreStore :=
  { t with beatmaps := t.beatmaps.insert checksum name }

def score? (t : ScoreStore) (id : ScoreId) : Option Score := t.scores[id]?

def beatmapName? (t : ScoreStore) (checksum : String) : Option BeatmapName :=
  t.beatmaps[checksum]?

/-- A user without an entry is not on public leaderboards. -/
def isUnrestricted (t : ScoreStore) (user : UserId) : Bool :=
  t.privileges[user]?.any Privileges.isUnrestricted

/-- Whether a score competes on the leaderboard of a beatmap and mode. -/
def isRankedOn (t : ScoreStore) (beatmap : String) (mode : GameMode) (s : Score) : Bool :=
  s.beatmap == beatmap && s.mode == mode && s.status == .best && t.isUnrestricted s.player

/-- How many ranked scores of the leaderboard are strictly ahead. -/
def countBetter (t : ScoreStore) (q : Standing) : Nat :=
  (t.scores.toList.map (·.2)).countP fun s =>
    t.isRankedOn q.beatmap q.mode s && q.value.beatenBy s

end ScoreStore

end Coordination
