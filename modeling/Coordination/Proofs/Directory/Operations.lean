import Coordination.Directory.Basic

/-!
# Operations on the directory

The twelve operations as data. An operation that is refused changes nothing. One that is carried
out changes each account by a rule that looks at this account alone, apart from who is in which
room and under what name a text is sent (`account?_perform`), so a run of operations is
understood one account at a time. For items that go to many players this takes an induction over
the players that they are offered to (`account?_offer`): each is reached once.
-/

namespace Coordination

namespace Account

variable (a : Account)

theorem enqueue_of_offline (h : a.isOnline = false) (item : Outbound) : a.enqueue item = a := by
  have hsession : a.session = none := by simpa [isOnline] using h
  obtain ⟨name, privileges, stored, session⟩ := a
  cases hsession
  rfl

theorem reload_of_offline (h : a.isOnline = false) : a.reload = a := by
  have hsession : a.session = none := by simpa [isOnline] using h
  obtain ⟨name, privileges, stored, session⟩ := a
  cases hsession
  rfl

@[simp] theorem isOnline_reload : a.reload.isOnline = a.isOnline := by
  simp [isOnline, reload]

@[simp] theorem outbox_reload : a.reload.outbox = a.outbox := by
  cases h : a.session <;> simp [outbox, reload, h]

end Account

namespace Directory

/-! ## Carried out or refused -/

/-- The directory after an action, whether or not it was refused. -/
def attempt {α : Type} (d : Directory) (x : Action α) : Directory :=
  match x.run d with
  | .ok _ d => d
  | .error _ d => d

section Attempt

variable (d : Directory) (user u : UserId) (f : Account → Account)

theorem rooms_updateAccount : (d.updateAccount user f).rooms = d.rooms := by
  unfold updateAccount
  cases d.account? user <;> rfl

theorem attempt_updateKnown : d.attempt (updateKnown user f) = d.updateAccount user f := by
  unfold attempt
  rw [run_updateKnown]
  cases h : d.account? user with
  | none => simp [updateAccount, h]
  | some a => simp

theorem account?_attempt_updateKnown : (d.attempt (updateKnown user f)).account? u =
    if u = user then (d.account? u).map f else d.account? u := by
  rw [attempt_updateKnown, account?_updateAccount]

theorem attempt_updateOnline : d.attempt (updateOnline user f) =
    if d.isOnline user then d.updateAccount user f else d := by
  unfold attempt
  rw [run_updateOnline]
  cases d.isOnline user <;> rfl

theorem rooms_attempt_updateKnown : (d.attempt (updateKnown user f)).rooms = d.rooms := by
  rw [attempt_updateKnown, rooms_updateAccount]

theorem rooms_attempt_updateOnline : (d.attempt (updateOnline user f)).rooms = d.rooms := by
  rw [attempt_updateOnline]
  split
  · exact rooms_updateAccount d user f
  · rfl

/-- A change of players who are online that would leave the others as they are. -/
theorem account?_attempt_updateOnline (hf : ∀ a : Account, a.isOnline = false → f a = a) :
    (d.attempt (updateOnline user f)).account? u =
      if u = user then (d.account? u).map f else d.account? u := by
  rw [attempt_updateOnline]
  split
  · exact account?_updateAccount d user u f
  · rename_i h
    by_cases hu : u = user
    · subst hu
      rw [if_pos rfl]
      cases ha : d.account? u with
      | none => rfl
      | some a => rw [Option.map_some, hf a (by simpa [isOnline, ha] using h)]
    · rw [if_neg hu]

theorem attempt_reloadStats :
    d.attempt (reloadStats user) = d.attempt (updateOnline user Account.reload) := by
  rw [attempt_updateOnline]
  unfold attempt
  cases h : d.isOnline user with
  | true =>
    obtain ⟨a, ha, honline⟩ := (isOnline_iff d user).1 h
    rw [run_reloadStats ha honline]
    rfl
  | false =>
    rw [run_reloadStats_of_offline h]
    rfl

end Attempt

/-! ## Items for many players -/

section Offer

variable (d : Directory) (item : Outbound)

theorem account?_attempt_enqueue (user u : UserId) :
    (d.attempt (enqueue user item)).account? u =
      if u = user then (d.account? u).map fun a => a.enqueue item else d.account? u :=
  account?_attempt_updateOnline d user u _ fun a h => a.enqueue_of_offline h item

theorem isOnline_attempt_enqueue (user u : UserId) :
    (d.attempt (enqueue user item)).isOnline u = d.isOnline u := by
  unfold isOnline
  rw [account?_attempt_enqueue]
  split
  · cases d.account? u <;> simp
  · rfl

theorem offer_cons (user : UserId) (users : List UserId) :
    d.offer item (user :: users) =
      let rest := (d.attempt (enqueue user item)).offer item users
      ((if d.isOnline user then 1 else 0) + rest.1, rest.2) := by
  have hattempt := attempt_updateOnline d user fun a => a.enqueue item
  simp only [offer, enqueue, run_updateOnline, hattempt]
  cases d.isOnline user <;> simp [Nat.add_comm]

/-- An item that is offered to distinct players is put once into the outbox of each. -/
theorem account?_offer {users : List UserId} (h : users.Nodup) (u : UserId) :
    (d.offer item users).2.account? u =
      if u ∈ users then (d.account? u).map fun a => a.enqueue item else d.account? u := by
  induction users generalizing d with
  | nil => rfl
  | cons user users ih =>
    obtain ⟨hnot, hrest⟩ := List.nodup_cons.1 h
    rw [offer_cons]
    simp only [ih _ hrest, account?_attempt_enqueue]
    by_cases hu : u = user
    · subst hu
      simp [hnot]
    · simp [hu]

theorem fst_offer (users : List UserId) : (d.offer item users).1 = users.countP d.isOnline := by
  induction users generalizing d with
  | nil => rfl
  | cons user users ih =>
    have hsame : (d.attempt (enqueue user item)).isOnline = d.isOnline :=
      funext (isOnline_attempt_enqueue d item user)
    rw [offer_cons]
    simp only [ih, hsame, List.countP_cons, Nat.add_comm]

theorem rooms_offer (users : List UserId) : (d.offer item users).2.rooms = d.rooms := by
  induction users generalizing d with
  | nil => rfl
  | cons user users ih =>
    rw [offer_cons]
    exact (ih _).trans (rooms_attempt_updateOnline d user _)

end Offer

section Broadcast

variable (d : Directory) (snapshot : PlayerSnapshot)

theorem mem_keys_accounts (u : UserId) : u ∈ d.accounts.keys ↔ (d.account? u).isSome := by
  rw [Std.ExtTreeMap.mem_keys, Std.ExtTreeMap.mem_iff_isSome_getElem?, account?]

theorem countP_keys_accounts : d.accounts.keys.countP d.isOnline = d.onlineCount := by
  rw [← Std.ExtTreeMap.map_fst_toList_eq_keys, List.countP_map, onlineCount]
  refine List.countP_congr fun entry hentry => ?_
  have hget : d.account? entry.1 = some entry.2 :=
    Std.ExtTreeMap.mem_toList_iff_getElem?_eq_some.1 hentry
  simp [isOnline, hget]

theorem account?_broadcastStats (u : UserId) : (d.broadcastStats snapshot).2.account? u =
    (d.account? u).map fun a => a.enqueue (.userStats snapshot) := by
  rw [broadcastStats, account?_offer d _ d.accounts.nodup_keys]
  split
  · rfl
  · rename_i h
    rw [mem_keys_accounts, Option.not_isSome_iff_eq_none] at h
    rw [h]
    rfl

theorem fst_broadcastStats : (d.broadcastStats snapshot).1 = d.onlineCount :=
  (fst_offer d _ _).trans (countP_keys_accounts d)

theorem rooms_broadcastStats : (d.broadcastStats snapshot).2.rooms = d.rooms :=
  rooms_offer d _ _

end Broadcast

/-- Whether a room exists and the user is one of its members. -/
def isMember (d : Directory) (room : String) (user : UserId) : Bool :=
  d.rooms[room]?.any fun members => members.contains user

section Rooms

variable (d : Directory) (room : String) (sender : UserId) (text : String)

theorem account?_sendToRoom (u : UserId) : (d.sendToRoom room sender text).2.account? u =
    if d.isMember room u then
      (d.account? u).map fun a => a.enqueue (.roomMessage room sender (d.senderName sender) text)
    else d.account? u := by
  unfold sendToRoom isMember
  cases d.rooms[room]? with
  | none => rfl
  | some members =>
    have hnodup : members.toList.Nodup :=
      members.distinct_toList.imp Std.ReflCmp.ne_of_cmp_ne_eq
    simp [account?_offer d _ hnodup, Std.ExtTreeSet.mem_toList]

theorem rooms_sendToRoom : (d.sendToRoom room sender text).2.rooms = d.rooms := by
  unfold sendToRoom
  cases d.rooms[room]? with
  | none => rfl
  | some members => exact rooms_offer d _ _

theorem sendToRoom_of_missing (h : d.rooms[room]? = none) :
    d.sendToRoom room sender text = (false, d) := by
  rw [sendToRoom, h]

end Rooms

/-! ## Operations as data -/

inductive Operation where
  | addAccount (user : UserId) (name : String) (privileges : Privileges)
  | storeStats (user : UserId) (stats : PlayerStats)
  | login (user : UserId)
  | logout (user : UserId)
  | createRoom (room : String)
  | joinRoom (room : String) (user : UserId)
  | reloadStats (user : UserId)
  | broadcastStats (snapshot : PlayerSnapshot)
  | restrict (user : UserId) (reason : String)
  | notify (user : UserId) (message : String)
  | sendToRoom (room : String) (sender : UserId) (text : String)
  | drain (user : UserId)

/-- The directory after an operation, whether or not it was refused. -/
def perform (d : Directory) : Operation → Directory
  | .addAccount user name privileges => d.addAccount user name privileges
  | .storeStats user stats => d.attempt (storeStats user stats)
  | .login user => d.attempt (login user)
  | .logout user => d.logout user
  | .createRoom room => d.createRoom room
  | .joinRoom room user => (d.joinRoom room user).2
  | .reloadStats user => d.attempt (reloadStats user)
  | .broadcastStats snapshot => (d.broadcastStats snapshot).2
  | .restrict user reason => d.attempt (restrict user reason)
  | .notify user message => d.attempt (notify user message)
  | .sendToRoom room sender text => (d.sendToRoom room sender text).2
  | .drain user => (d.drain user).2

section Refusals

variable (d : Directory) (user : UserId)

theorem run_restrict (reason : String) : (restrict user reason).run d =
    if (d.account? user).isSome then .ok () (d.perform (.restrict user reason))
    else .error (.unknownPlayer user) d := by
  have hperform : d.perform (.restrict user reason) =
      d.updateAccount user fun a => a.restrict reason := attempt_updateKnown d user _
  rw [restrict, run_updateKnown, hperform]

theorem run_notify (message : String) : (notify user message).run d =
    if d.isOnline user then .ok () (d.perform (.notify user message))
    else .error (.notOnline user) d := by
  have hperform : d.perform (.notify user message) =
      if d.isOnline user then d.updateAccount user fun a => a.enqueue (.notification message)
      else d := attempt_updateOnline d user _
  rw [notify, enqueue, run_updateOnline, hperform]
  split <;> rfl

theorem perform_reloadStats (h : d.isOnline user) :
    d.perform (.reloadStats user) = d.updateAccount user Account.reload := by
  have hperform : d.perform (.reloadStats user) =
      if d.isOnline user then d.updateAccount user Account.reload else d :=
    (attempt_reloadStats d user).trans (attempt_updateOnline d user _)
  rw [hperform, if_pos h]

theorem rooms_perform_reloadStats : (d.perform (.reloadStats user)).rooms = d.rooms := by
  show (d.attempt (reloadStats user)).rooms = d.rooms
  rw [attempt_reloadStats, rooms_attempt_updateOnline]

end Refusals

/-- The directory after operations that follow one another. -/
def performAll (d : Directory) (ops : List Operation) : Directory := ops.foldl perform d

namespace Operation

/-- Whether the operation creates the user's account, in place of any earlier one. -/
def adds (u : UserId) : Operation → Bool
  | addAccount user _ _ => user == u
  | _ => false

/-- What an operation that does not create the user's account makes of it. -/
def onAccount (d : Directory) (u : UserId) : Operation → Account → Account
  | storeStats user stats, a => if u = user then { a with stored := stats } else a
  | login user, a => if u = user then a.login else a
  | logout user, a => if u = user then a.logout else a
  | reloadStats user, a => if u = user then a.reload else a
  | broadcastStats snapshot, a => a.enqueue (.userStats snapshot)
  | restrict user reason, a => if u = user then a.restrict reason else a
  | notify user message, a => if u = user then a.enqueue (.notification message) else a
  | sendToRoom room sender text, a =>
    if d.isMember room u then a.enqueue (.roomMessage room sender (d.senderName sender) text)
    else a
  | drain user, a => if u = user then a.drain else a
  | addAccount _ _ _, a | createRoom _, a | joinRoom _ _, a => a

end Operation

theorem map_ite {α : Type} (o : Option α) (f : α → α) (c : Prop) [Decidable c] :
    (o.map fun a => if c then f a else a) = if c then o.map f else o := by
  split <;> simp

/-- An operation acts on each account by itself. -/
theorem account?_perform (d : Directory) (op : Operation) (u : UserId) (h : op.adds u = false) :
    (d.perform op).account? u = (d.account? u).map (op.onAccount d u) := by
  cases op with
  | addAccount user name privileges =>
    have hu : u ≠ user := fun e => by simp [Operation.adds, e] at h
    have hsame : (d.addAccount user name privileges).account? u = d.account? u :=
      (account?_putAccount d user u _).trans (if_neg hu)
    exact hsame.trans Option.map_id'.symm
  | storeStats user stats =>
    exact (account?_attempt_updateKnown d user u _).trans (map_ite _ _ _).symm
  | login user => exact (account?_attempt_updateKnown d user u _).trans (map_ite _ _ _).symm
  | logout user => exact (account?_updateAccount d user u _).trans (map_ite _ _ _).symm
  | createRoom room => exact Option.map_id'.symm
  | joinRoom room user =>
    have hsame : (d.joinRoom room user).2.account? u = d.account? u := by
      unfold joinRoom
      cases d.rooms[room]? <;> rfl
    exact hsame.trans Option.map_id'.symm
  | reloadStats user =>
    have hreload := account?_attempt_updateOnline d user u Account.reload Account.reload_of_offline
    rw [← attempt_reloadStats] at hreload
    exact hreload.trans (map_ite _ _ _).symm
  | broadcastStats snapshot => exact account?_broadcastStats d snapshot u
  | restrict user reason =>
    exact (account?_attempt_updateKnown d user u _).trans (map_ite _ _ _).symm
  | notify user message => exact (account?_attempt_enqueue d _ user u).trans (map_ite _ _ _).symm
  | sendToRoom room sender text =>
    exact (account?_sendToRoom d room sender text u).trans (map_ite _ _ _).symm
  | drain user => exact (account?_updateAccount d user u _).trans (map_ite _ _ _).symm

end Directory

end Coordination
