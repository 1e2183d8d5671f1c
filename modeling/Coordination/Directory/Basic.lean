import Std.Data.ExtTreeMap
import Std.Data.ExtTreeSet
import Coordination.Directory.Account

/-!
# The player directory

All accounts and chat rooms of the service. What can be refused is an action on the directory:
it looks at accounts and writes to them step by step, and a refusal says why. The other
operations always succeed.
-/

namespace Coordination

inductive DirectoryError where
  | notOnline (user : UserId)
  | unknownPlayer (user : UserId)
deriving DecidableEq, Repr

def DirectoryError.message : DirectoryError → String
  | .notOnline user => s!"player {user} is not online"
  | .unknownPlayer user => s!"player {user} does not exist"

structure Directory where
  accounts : Std.ExtTreeMap UserId Account := ∅
  /-- The members of each room that was created. -/
  rooms : Std.ExtTreeMap String (Std.ExtTreeSet UserId) := ∅

namespace Directory

def account? (d : Directory) (user : UserId) : Option Account := d.accounts[user]?

def isOnline (d : Directory) (user : UserId) : Bool := (d.account? user).any Account.isOnline

def onlineCount (d : Directory) : Nat := d.accounts.toList.countP fun (_, a) => a.isOnline

def privileges? (d : Directory) (user : UserId) : Option Privileges :=
  (d.account? user).map Account.privileges

/-- What is waiting for a player. -/
def outbox (d : Directory) (user : UserId) : List Outbound :=
  ((d.account? user).map Account.outbox).getD []

def putAccount (d : Directory) (user : UserId) (a : Account) : Directory :=
  { d with accounts := d.accounts.insert user a }

/-- Changes the account of a player who has one. -/
def updateAccount (d : Directory) (user : UserId) (f : Account → Account) : Directory :=
  match d.account? user with
  | some a => d.putAccount user (f a)
  | none => d

/-! ## Actions -/

/-- Something that is done to the directory in place and that may be refused. What was done
before a refusal stays done. -/
abbrev Action (α : Type) := EStateM DirectoryError Directory α

/-- The account of a player who must have one. -/
def known (user : UserId) : Action Account := do
  match (← get).account? user with
  | some a => return a
  | none => throw (.unknownPlayer user)

/-- The account of a player who must be online. -/
def online (user : UserId) : Action Account := do
  match (← get).account? user with
  | some a => if a.isOnline then return a else throw (.notOnline user)
  | none => throw (.notOnline user)

/-- Changes the account of a player who must have one. -/
def updateKnown (user : UserId) (f : Account → Account) : Action Unit := do
  let a ← known user
  modify fun d => d.putAccount user (f a)

/-- Changes the account of a player who must be online. -/
def updateOnline (user : UserId) (f : Account → Account) : Action Unit := do
  let a ← online user
  modify fun d => d.putAccount user (f a)

/-! ## Accounts and sessions -/

/-- Creates an account, in place of any earlier one with the same id. -/
def addAccount (d : Directory) (user : UserId) (name : String) (privileges : Privileges) :
    Directory :=
  d.putAccount user { name, privileges }

/-- Stores stats. A session keeps the ones it has until they are reloaded. -/
def storeStats (user : UserId) (stats : PlayerStats) : Action Unit :=
  updateKnown user fun a => { a with stored := stats }

def login (user : UserId) : Action Unit := updateKnown user Account.login

/-- Ends the session, if there is one, and leaves every room. -/
def logout (d : Directory) (user : UserId) : Directory :=
  { d.updateAccount user Account.logout with
    rooms := d.rooms.map fun _ members => members.erase user }

/-- Takes everything out of a player's outbox. -/
def drain (d : Directory) (user : UserId) : List Outbound × Directory :=
  (d.outbox user, d.updateAccount user Account.drain)

/-! ## Rooms -/

/-- Creates a room. A room that exists keeps its members. -/
def createRoom (d : Directory) (room : String) : Directory :=
  { d with rooms := d.rooms.insertIfNew room ∅ }

/-- Joins a room if it exists, and says whether it does. The player need not be known. -/
def joinRoom (d : Directory) (room : String) (user : UserId) : Bool × Directory :=
  match d.rooms[room]? with
  | some members => (true, { d with rooms := d.rooms.insert room (members.insert user) })
  | none => (false, d)

/-! ## What is sent to players -/

/-- Puts an item into the outbox of a player who must be online. -/
def enqueue (user : UserId) (item : Outbound) : Action Unit :=
  updateOnline user fun a => a.enqueue item

/-- Offers an item to players one after the other. Those who are not online are passed over, and
the others are counted. -/
def offer (d : Directory) (item : Outbound) : List UserId → Nat × Directory
  | [] => (0, d)
  | user :: users =>
    match (enqueue user item).run d with
    | .ok _ d =>
      let (reached, d) := d.offer item users
      (reached + 1, d)
    | .error _ d => d.offer item users

/-- The name under which a player speaks: the account's, or else the id. -/
def senderName (d : Directory) (user : UserId) : String :=
  ((d.account? user).map Account.name).getD (toString user)

/-- Sends a text to the members of a room, if the room exists, and says whether it does. -/
def sendToRoom (d : Directory) (room : String) (sender : UserId) (text : String) :
    Bool × Directory :=
  match d.rooms[room]? with
  | some members =>
    let item := Outbound.roomMessage room sender (d.senderName sender) text
    (true, (d.offer item members.toList).2)
  | none => (false, d)

/-- Shows a snapshot to everyone, and says how many players were reached. -/
def broadcastStats (d : Directory) (snapshot : PlayerSnapshot) : Nat × Directory :=
  d.offer (.userStats snapshot) d.accounts.keys

/-- Loads the stored stats of a player who is online into the session. -/
def reloadStats (user : UserId) : Action PlayerSnapshot := do
  let a ← online user
  modify fun d => d.putAccount user a.reload
  return a.reload.snapshot user

/-- Restricts an account, online or not. -/
def restrict (user : UserId) (reason : String) : Action Unit :=
  updateKnown user fun a => a.restrict reason

def notify (user : UserId) (message : String) : Action Unit :=
  enqueue user (.notification message)

/-! ## Accounts after a write -/

theorem account?_putAccount (d : Directory) (user u : UserId) (a : Account) :
    (d.putAccount user a).account? u = if u = user then some a else d.account? u := by
  unfold putAccount account?
  rw [Std.ExtTreeMap.getElem?_insert]
  by_cases h : u = user
  · simp [h]
  · have : compare user u ≠ .eq := fun he => h (Std.LawfulEqOrd.eq_of_compare he).symm
    simp [h, this]

theorem account?_updateAccount (d : Directory) (user u : UserId) (f : Account → Account) :
    (d.updateAccount user f).account? u =
      if u = user then (d.account? u).map f else d.account? u := by
  unfold updateAccount
  cases h : d.account? user with
  | none =>
    by_cases hu : u = user
    · simp [hu, h]
    · simp [hu]
  | some a =>
    rw [account?_putAccount]
    by_cases hu : u = user
    · simp [hu, h]
    · simp [hu]

/-! ## What actions come to -/

section Actions

variable (d : Directory) (user : UserId) (f : Account → Account)

theorem run_updateKnown : (updateKnown user f).run d =
    if (d.account? user).isSome then .ok () (d.updateAccount user f)
    else .error (.unknownPlayer user) d := by
  cases h : d.account? user with
  | none => simp [updateKnown, known, h]; rfl
  | some a => simp [updateKnown, known, updateAccount, h]

theorem isOnline_iff : d.isOnline user ↔ ∃ a, d.account? user = some a ∧ a.isOnline := by
  unfold isOnline
  cases d.account? user <;> simp

variable {d user}

theorem run_online {a : Account} (h : d.account? user = some a) (ha : a.isOnline) :
    (online user).run d = .ok a d := by
  simp [online, h, ha]

theorem run_online_of_offline (h : d.isOnline user = false) :
    (online user).run d = .error (.notOnline user) d := by
  cases ha : d.account? user with
  | none => simp [online, ha]; rfl
  | some a =>
    have hoffline : a.isOnline = false := by simpa [isOnline, ha] using h
    simp [online, ha, hoffline]; rfl

variable (d user)

theorem run_updateOnline : (updateOnline user f).run d =
    if d.isOnline user then .ok () (d.updateAccount user f) else .error (.notOnline user) d := by
  cases h : d.isOnline user with
  | false => simp [updateOnline, run_online_of_offline h]
  | true =>
    obtain ⟨a, ha, honline⟩ := (isOnline_iff d user).1 h
    simp [updateOnline, run_online ha honline, updateAccount, ha]

variable {d user}

theorem run_reloadStats {a : Account} (h : d.account? user = some a) (ha : a.isOnline) :
    (reloadStats user).run d =
      .ok (a.reload.snapshot user) (d.updateAccount user Account.reload) := by
  unfold updateAccount
  rw [h]
  simp only [reloadStats, EStateM.run_bind, run_online h ha]
  rfl

theorem run_reloadStats_of_offline (h : d.isOnline user = false) :
    (reloadStats user).run d = .error (.notOnline user) d := by
  simp [reloadStats, run_online_of_offline h]

end Actions

end Directory

end Coordination
