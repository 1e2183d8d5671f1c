import Coordination.Directory.Account
import Coordination.Json.Record

/-!
# What players are sent, in JSON

An item for a player is an object whose first member says what kind of item it is.
-/

namespace Coordination

def PlayerStats.members (s : PlayerStats) : List (String × String) := [
  ("pp", Json.writeFloat s.pp),
  ("accuracy", Json.writeFloat s.accuracy),
  ("playcount", toString s.playcount),
  ("rank", toString s.rank)]

def PlayerSnapshot.members (s : PlayerSnapshot) : List (String × String) := [
  ("user_id", toString s.user),
  ("name", Json.writeString s.name),
  ("restricted", toString s.restricted),
  ("stats", Json.writeObject s.stats.members)]

def PlayerSnapshot.encode (s : PlayerSnapshot) : String := Json.writeObject s.members

namespace Outbound

def kind : Outbound → String
  | userStats _ => "user_stats"
  | notification _ => "notification"
  | roomMessage .. => "room_message"
  | restricted _ => "restricted"

def members : Outbound → List (String × String)
  | userStats s => s.members
  | notification message => [("message", Json.writeString message)]
  | roomMessage room sender senderName text => [
      ("room", Json.writeString room),
      ("sender_id", toString sender),
      ("sender_name", Json.writeString senderName),
      ("text", Json.writeString text)]
  | restricted reason => [("reason", Json.writeString reason)]

def encode (item : Outbound) : String :=
  Json.writeObject (("kind", Json.writeString item.kind) :: item.members)

end Outbound

end Coordination
