import Coordination.Identity

/-!
# Accounts and what is sent to players

An account exists whether or not its player is online. A player who is online has a session:
the stats as they were last loaded, and the outbox of what is still to be delivered.
-/

namespace Coordination

structure PlayerStats where
  pp : Float := 0
  accuracy : Float := 0
  playcount : UInt32 := 0
  rank : UInt32 := 0

/-- What other players are shown of a player. -/
structure PlayerSnapshot where
  user : UserId
  name : String
  restricted : Bool
  stats : PlayerStats

/-- Something that is delivered to a player. -/
inductive Outbound where
  | userStats (snapshot : PlayerSnapshot)
  | notification (message : String)
  | roomMessage (room : String) (sender : UserId) (senderName text : String)
  | restricted (reason : String)

structure Session where
  stats : PlayerStats
  /-- Oldest first. -/
  outbox : List Outbound := []

structure Account where
  name : String
  privileges : Privileges
  stored : PlayerStats := {}
  session : Option Session := none

namespace Account

def isOnline (a : Account) : Bool := a.session.isSome

/-- The stats of the session, or the stored ones of a player who is offline. -/
def snapshot (a : Account) (user : UserId) : PlayerSnapshot where
  user
  name := a.name
  restricted := !a.privileges.isUnrestricted
  stats := (a.session.map Session.stats).getD a.stored

/-- Puts an item at the end of the outbox of a player who is online. -/
def enqueue (a : Account) (item : Outbound) : Account :=
  { a with session := a.session.map fun s => { s with outbox := s.outbox ++ [item] } }

def outbox (a : Account) : List Outbound := (a.session.map Session.outbox).getD []

/-- Begins a session with the stored stats and an empty outbox. -/
def login (a : Account) : Account := { a with session := some { stats := a.stored } }

def logout (a : Account) : Account := { a with session := none }

/-- Takes everything out of the outbox. -/
def drain (a : Account) : Account :=
  { a with session := a.session.map fun s => { s with outbox := [] } }

/-- Loads the stored stats into the session. -/
def reload (a : Account) : Account :=
  { a with session := a.session.map fun s => { s with stats := a.stored } }

/-- Takes the account off public leaderboards and tells its player, if online. -/
def restrict (a : Account) (reason : String) : Account :=
  { a with privileges := a.privileges.restrict }.enqueue (.restricted reason)

@[simp] theorem isOnline_enqueue (a : Account) (item : Outbound) :
    (a.enqueue item).isOnline = a.isOnline := by
  simp [isOnline, enqueue]

theorem outbox_enqueue (a : Account) (item : Outbound) :
    (a.enqueue item).outbox = a.outbox ++ if a.isOnline then [item] else [] := by
  cases h : a.session <;> simp [outbox, enqueue, isOnline, h]

end Account

end Coordination
