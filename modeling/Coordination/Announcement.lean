import Coordination.Decimal.Layout
import Coordination.Score.Basic

/-!
# Announcements

The line that tells a chat room about a new placement.
-/

namespace Coordination

structure Announcement where
  rank : UInt32
  /-- The beatmap's name as players read it. -/
  beatmap : String
  mods : Mods
  accuracy : Float
  pp : Float

namespace Announcement

/-- The part that names the mods, with the space after it. A play without any has no such
part. -/
def modsPart (m : Mods) : String := if m.isEmpty then "" else "+" ++ m.text ++ " "

/-- The line, which a chat client shows as an action of the sender. -/
def text (a : Announcement) : String :=
  "\x01ACTION achieved #" ++ toString a.rank ++ " on " ++ a.beatmap ++ " " ++ modsPart a.mods ++
    "with " ++ Decimal.fixed 2 a.accuracy ++ "% for " ++ Decimal.Layout.message.write a.pp ++ "pp."

end Announcement

end Coordination
