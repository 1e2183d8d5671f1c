import Coordination.Announcement
import Coordination.Directory.Basic
import Coordination.Event.Basic
import Coordination.Log.Basic
import Coordination.Score.Ranking
import Coordination.Bus.Handler

/-!
# What events do to the world

The world is the player directory and the stored scores. Each kind of event is an action on it:
the directory and the scores are looked at and written to step by step.
-/

namespace Coordination

structure World where
  directory : Directory := {}
  scores : ScoreStore := {}

namespace World

/-- Something that is done to the world in place and that may fail. What was done before a
failure stays done. -/
abbrev Action (α : Type) := EStateM (Failure HandlerError) World α

/-- Acts on the directory. A refusal is a failure to act. -/
def onDirectory {α : Type} (x : Directory.Action α) : Action α := fun w =>
  match x.run w.directory with
  | .ok a directory => .ok a { w with directory }
  | .error e directory => .error (.error (.execution e.message)) { w with directory }

/-- Reloads the stats of a player who is online and shows them to everyone, unless the player
is restricted. -/
def refreshStats (user : UserId) : Action (List LogLine) := do
  let snapshot ← onDirectory (Directory.reloadStats user)
  if snapshot.restricted then return []
  modify fun w => { w with directory := (w.directory.broadcastStats snapshot).2 }
  return []

/-- What a score's announcement needs: the score, its placement and the beatmap's name. -/
def announcement? (w : World) (id : ScoreId) :
    Except (Failure HandlerError) (Score × Announcement) :=
  let repository := Repository.ofStore w.scores
  match repository.placementOf id with
  | .error failure => .error (failure.map fun e => .execution e.message)
  | .ok (s, rank) =>
    match repository.beatmapText? s.beatmap with
    | .error e => .error (.error (.execution e.message))
    | .ok none => .error (.error (.execution s!"beatmap {s.beatmap} not found"))
    | .ok (some beatmap) =>
      .ok (s, { rank, beatmap, mods := s.mods, accuracy := s.accuracy, pp := s.pp })

/-- Announces a score in the room, in the name of the player. Nothing happens if there is no
such room. -/
def announce (room : String) (id : ScoreId) : Action (List LogLine) := do
  match (← get).announcement? id with
  | .error failure => throw failure
  | .ok (s, a) =>
    let (sent, directory) := (← get).directory.sendToRoom room s.player a.text
    modify fun w => { w with directory }
    return if sent then [⟨.info, s!"Announced score {id} (#{a.rank} on {a.beatmap})"⟩] else []

/-- What is reported of a restriction. -/
def restrictionNotice (w : World) (user : UserId) (reason : String) : LogLine :=
  ⟨.info, s!"Restricted {w.directory.senderName user} ({user}) for {Text.quoted reason}"⟩

def restrict (user : UserId) (reason : String) : Action (List LogLine) := do
  onDirectory (Directory.restrict user reason)
  return [(← get).restrictionNotice user reason]

def notify (user : UserId) (message : String) : Action (List LogLine) := do
  onDirectory (Directory.notify user message)
  return []

/-- Acts on an event, with announcements going to `room`. The result is what is reported. -/
def perform (room : String) : Event → Action (List LogLine)
  | .refreshStats user => refreshStats user
  | .announce id => announce room id
  | .restrict user reason => restrict user reason
  | .notify user message => notify user message

end World

end Coordination
