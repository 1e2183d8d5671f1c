import Coordination.Proofs.Directory.Ledger

/-!
# Rooms and their members

An operation acts on each room by itself (`room?_perform`). A room is there from its creation on
(`room_isSome_performAll`). Its members are told from two operations: whoever joins it is in it,
and whoever logs out is in no room any more (`isMember_perform`). So the members of a room can be
read off a run backwards: a user is one of them if a join that found the room comes after the
user's last logout (`isMember_performAll`). Accounts and sessions play no part in this.
-/

namespace Coordination

namespace Directory

/-- The users in a room. -/
abbrev Members := Std.ExtTreeSet UserId

/-! ## Steps -/

namespace Operation

/-- What the operation makes of a room, which may be missing before and after. -/
def onRoom (room : String) : Operation → Option Members → Option Members
  | logout user, members => members.map fun m => m.erase user
  | createRoom r, members => if r = room then some (members.getD ∅) else members
  | joinRoom r user, members => if r = room then members.map fun m => m.insert user else members
  | _, members => members

/-- Whether the operation takes the user out of all rooms. -/
def leaves (u : UserId) : Operation → Bool
  | logout user => user == u
  | _ => false

/-- Whether the operation is to join the room and finds it. -/
def enters (d : Directory) (room : String) (u : UserId) : Operation → Bool
  | joinRoom r user => r == room && user == u && (d.joinRoom r user).1
  | _ => false

def creates (room : String) : Operation → Bool
  | createRoom r => r == room
  | _ => false

end Operation

theorem compare_beq_eq (a b : UserId) : (compare a b == .eq) = (a == b) := by
  rw [Bool.eq_iff_iff, beq_iff_eq, beq_iff_eq, Std.LawfulEqCmp.compare_eq_iff_eq]

section Step

variable (d : Directory) (op : Operation) (room : String) (u : UserId)

theorem fst_joinRoom : (d.joinRoom room u).1 = d.rooms[room]?.isSome := by
  unfold joinRoom
  cases d.rooms[room]? <;> rfl

theorem room?_joinRoom (r : String) : (d.joinRoom r u).2.rooms[room]? =
    if r = room then d.rooms[room]?.map fun m => m.insert u else d.rooms[room]? := by
  unfold joinRoom
  cases h : d.rooms[r]? with
  | none =>
    by_cases hr : r = room
    · subst hr
      simp [h]
    · simp [hr]
  | some members =>
    by_cases hr : r = room
    · subst hr
      simp [h]
    · simp [Std.ExtTreeMap.getElem?_insert, hr]

theorem room?_createRoom (r : String) : (d.createRoom r).rooms[room]? =
    if r = room then some (d.rooms[room]?.getD ∅) else d.rooms[room]? := by
  unfold createRoom
  rw [Std.ExtTreeMap.getElem?_insertIfNew]
  by_cases hr : r = room
  · subst hr
    cases h : d.rooms[r]? <;> simp [Std.ExtTreeMap.mem_iff_isSome_getElem?, h]
  · simp [hr]

/-- An operation acts on each room by itself. -/
theorem room?_perform : (d.perform op).rooms[room]? = op.onRoom room d.rooms[room]? := by
  cases op with
  | logout user => exact Std.ExtTreeMap.getElem?_map
  | createRoom r => exact room?_createRoom d room r
  | joinRoom r user => exact room?_joinRoom d room user r
  | addAccount user name privileges => rfl
  | storeStats user stats => exact congrArg (·[room]?) (rooms_attempt_updateKnown d user _)
  | login user => exact congrArg (·[room]?) (rooms_attempt_updateKnown d user _)
  | reloadStats user => exact congrArg (·[room]?) (rooms_perform_reloadStats d user)
  | broadcastStats snapshot => exact congrArg (·[room]?) (rooms_broadcastStats d snapshot)
  | restrict user reason => exact congrArg (·[room]?) (rooms_attempt_updateKnown d user _)
  | notify user message => exact congrArg (·[room]?) (rooms_attempt_updateOnline d user _)
  | sendToRoom r sender text => exact congrArg (·[room]?) (rooms_sendToRoom d r sender text)
  | drain user => exact congrArg (·[room]?) (rooms_updateAccount d user _)

/-- A room that was created does not disappear, and no other room appears. -/
theorem room_isSome_perform : (d.perform op).rooms[room]?.isSome =
    (d.rooms[room]?.isSome || op.creates room) := by
  rw [room?_perform]
  cases op with
  | createRoom r =>
    by_cases hr : r = room
    · simp [Operation.onRoom, Operation.creates, hr]
    · simp [Operation.onRoom, Operation.creates, hr]
  | joinRoom r user =>
    by_cases hr : r = room
    · simp [Operation.onRoom, Operation.creates, hr]
    · simp [Operation.onRoom, Operation.creates, hr]
  | logout | addAccount | storeStats | login | reloadStats | broadcastStats | restrict | notify
  | sendToRoom | drain => simp [Operation.onRoom, Operation.creates]

/-- Who leaves all rooms leaves this one, who joins it is in it, and everyone else is in it or
not as before. -/
theorem isMember_perform : (d.perform op).isMember room u =
    (d.isMember room u && !op.leaves u || op.enters d room u) := by
  unfold isMember
  rw [room?_perform]
  cases op with
  | logout user =>
    cases d.rooms[room]? with
    | none => simp [Operation.onRoom, Operation.leaves, Operation.enters]
    | some members =>
      simp [Operation.onRoom, Operation.leaves, Operation.enters, Std.ExtTreeSet.contains_erase,
        compare_beq_eq, Bool.and_comm, bne]
  | createRoom r =>
    by_cases hr : r = room
    · cases d.rooms[room]? <;> simp [Operation.onRoom, Operation.leaves, Operation.enters, hr]
    · simp [Operation.onRoom, Operation.leaves, Operation.enters, hr]
  | joinRoom r user =>
    by_cases hr : r = room
    · subst hr
      simp only [Operation.onRoom, Operation.leaves, Operation.enters, fst_joinRoom]
      cases d.rooms[r]? with
      | none => simp
      | some members => simp [Std.ExtTreeSet.contains_insert, compare_beq_eq, Bool.or_comm]
    · simp [Operation.onRoom, Operation.leaves, Operation.enters, hr]
  | addAccount | storeStats | login | reloadStats | broadcastStats | restrict | notify
  | sendToRoom | drain => simp [Operation.onRoom, Operation.leaves, Operation.enters]

end Step

/-! ## Runs -/

/-- A run in which the user joins the room, finds it, and does not log out any more. -/
def HasJoined (d : Directory) (room : String) (u : UserId) (ops : List Operation) : Prop :=
  ∃ before after, ops = before ++ .joinRoom room u :: after ∧
    ((d.performAll before).joinRoom room u).1 = true ∧ .logout u ∉ after

section Run

variable (d : Directory) (ops : List Operation) (op : Operation) (room : String) (u : UserId)

theorem leaves_eq_false_iff : op.leaves u = false ↔ op ≠ .logout u := by
  cases op <;> simp [Operation.leaves]

theorem enters_iff :
    op.enters d room u = true ↔ op = .joinRoom room u ∧ (d.joinRoom room u).1 = true := by
  cases op with
  | joinRoom r user =>
    simp only [Operation.enters, Bool.and_eq_true, beq_iff_eq, Operation.joinRoom.injEq]
    constructor
    · rintro ⟨⟨rfl, rfl⟩, h⟩
      exact ⟨⟨rfl, rfl⟩, h⟩
    · rintro ⟨⟨rfl, rfl⟩, h⟩
      exact ⟨⟨rfl, rfl⟩, h⟩
  | addAccount | storeStats | login | logout | createRoom | reloadStats | broadcastStats
  | restrict | notify | sendToRoom | drain => simp [Operation.enters]

theorem creates_iff : op.creates room = true ↔ op = .createRoom room := by
  cases op <;> simp [Operation.creates]

theorem hasJoined_nil : ¬ d.HasJoined room u [] := by
  rintro ⟨before, after, h, -⟩
  simp at h

theorem hasJoined_concat : d.HasJoined room u (ops ++ [op]) ↔
    (d.HasJoined room u ops ∧ op ≠ .logout u) ∨
      (op = .joinRoom room u ∧ ((d.performAll ops).joinRoom room u).1 = true) := by
  constructor
  · rintro ⟨before, after, h, hfound, hafter⟩
    -- The join is the last operation, or it comes before it.
    obtain ⟨rfl, rfl, rfl⟩ | ⟨rest, rfl, rfl⟩ := concat_eq_append_cons_iff.1 h
    · exact .inr ⟨rfl, hfound⟩
    · rw [List.mem_append, not_or, List.mem_singleton] at hafter
      exact .inl ⟨⟨before, rest, rfl, hfound, hafter.1⟩, Ne.symm hafter.2⟩
  · rintro (⟨⟨before, after, rfl, hfound, hafter⟩, hop⟩ | ⟨rfl, hfound⟩)
    · refine ⟨before, after ++ [op], by simp, hfound, ?_⟩
      rw [List.mem_append, not_or, List.mem_singleton]
      exact ⟨hafter, Ne.symm hop⟩
    · exact ⟨ops, [], rfl, hfound, List.not_mem_nil⟩

/-- A room is there if it was there at first or has been created since. -/
theorem room_isSome_performAll : (d.performAll ops).rooms[room]?.isSome = true ↔
    d.rooms[room]?.isSome = true ∨ .createRoom room ∈ ops := by
  induction ops using List.reverseRecOn with
  | nil => simp [performAll]
  | append_singleton ops op ih =>
    rw [performAll_concat, room_isSome_perform, Bool.or_eq_true, ih, creates_iff, List.mem_append,
      List.mem_singleton, or_assoc, eq_comm (a := op)]

/-- The members of a room are those who were in it at first and have not logged out, and those
who have joined it and have not logged out since. -/
theorem isMember_performAll : (d.performAll ops).isMember room u = true ↔
    (d.isMember room u = true ∧ .logout u ∉ ops) ∨ d.HasJoined room u ops := by
  induction ops using List.reverseRecOn with
  | nil => simp [performAll, hasJoined_nil]
  | append_singleton ops op ih =>
    rw [performAll_concat, isMember_perform, Bool.or_eq_true, Bool.and_eq_true, ih,
      Bool.not_eq_true', leaves_eq_false_iff, enters_iff, hasJoined_concat, List.mem_append,
      not_or, List.mem_singleton, ne_comm (a := op)]
    tauto

end Run

end Directory

end Coordination
