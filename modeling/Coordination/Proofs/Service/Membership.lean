import Coordination.Proofs.Directory.Rooms
import Coordination.Proofs.Service.Restriction
import Coordination.Service.Assembly

/-!
# Membership is the history of joins

Messages do not change who is in which room (`rooms_dispatch`), so membership is decided by
operations alone, and a room that is there stays there through whatever happens to the world
(`room_isSome_steps`). A room's texts are offered to its members only. Hence a player who is in no
room hears nothing of any room until joining one (`apart_steps`), and after a logout a player is in
no room (`apart_logout`).
-/

namespace Coordination

open Directory (Operation)

/-- Whether the item is a text that was sent to a room. -/
def Outbound.isRoomMessage : Outbound → Bool
  | roomMessage .. => true
  | _ => false

/-! ## What is addressed to those outside -/

section Addressed

variable {u : UserId} {item : Outbound}

theorem not_isRoomMessage_of_mem_ite {other : Outbound} {c : Prop} [Decidable c]
    (hother : other.isRoomMessage = false) (h : item ∈ if c then [other] else []) :
    item.isRoomMessage = false := by
  split at h
  · rwa [List.mem_singleton.1 h]
  · cases h

/-- Texts of a room are addressed to its members. -/
theorem not_isRoomMessage_of_mem_addressed {d : Directory} {op : Operation}
    (h : ∀ r, d.isMember r u = false) (hitem : item ∈ op.addressed d u) :
    item.isRoomMessage = false := by
  cases op with
  | broadcastStats snapshot =>
    obtain rfl := List.mem_singleton.1 hitem
    rfl
  | restrict user reason => exact not_isRoomMessage_of_mem_ite rfl hitem
  | notify user message => exact not_isRoomMessage_of_mem_ite rfl hitem
  | sendToRoom r sender text =>
    rw [Operation.addressed, h r] at hitem
    cases hitem
  | addAccount | storeStats | login | logout | createRoom | joinRoom | reloadStats | drain =>
    cases hitem

theorem not_isRoomMessage_of_mem_items {room : String} {w : World} {event : Event}
    (h : ∀ r, w.directory.isMember r u = false) (hitem : item ∈ event.items room w u) :
    item.isRoomMessage = false := by
  cases event with
  | refreshStats user =>
    simp only [Event.items] at hitem
    split at hitem
    · exact not_isRoomMessage_of_mem_ite rfl hitem
    · cases hitem
  | announce id =>
    simp only [Event.items, h room] at hitem
    split at hitem <;> cases hitem
  | restrict user reason => exact not_isRoomMessage_of_mem_ite rfl hitem
  | notify user message => exact not_isRoomMessage_of_mem_ite rfl hitem

end Addressed

/-! ## Steps and runs of the world -/

namespace World

variable {d : Deployment} {room : String} {w : World}

theorem rooms_dispatch (m : Message) :
    ((d.registry room).dispatch m w).world.directory.rooms = w.directory.rooms := by
  rcases dispatch_cases d room m w with ⟨-, -, hworld⟩ | ⟨-, -, -, hworld⟩ |
    ⟨event, -, haccepts, -, hworld⟩
  · rw [hworld]
  · rw [hworld]
  · rw [hworld]
    exact (changes_after room haccepts).rooms

/-- Whether the step is to join a room that is there. -/
def Step.Enters (w : World) (u : UserId) : Step → Prop
  | operation op => ∃ r, op.enters w.directory r u = true
  | message _ | scores _ => False

/-- The user is in no room, and nothing that was sent to a room waits for the user. -/
structure Apart (w : World) (u : UserId) : Prop where
  outside : ∀ r, w.directory.isMember r u = false
  unheard : ∀ item ∈ w.directory.outbox u, item.isRoomMessage = false

variable {u : UserId} {s : Step} {ss : List Step}

theorem room_isSome_step {r : String} (h : w.directory.rooms[r]?.isSome = true) :
    (w.step d room s).directory.rooms[r]?.isSome = true := by
  cases s with
  | operation op =>
    refine (w.directory.room_isSome_perform op r).trans ?_
    rw [h, Bool.true_or]
  | message m => rwa [step, rooms_dispatch]
  | scores t => exact h

/-- A room that is there stays there. -/
theorem room_isSome_steps {r : String} (h : w.directory.rooms[r]?.isSome = true) :
    (w.steps d room ss).directory.rooms[r]?.isSome = true := by
  induction ss using List.reverseRecOn with
  | nil => exact h
  | append_singleton ss s ih =>
    rw [steps_concat]
    exact room_isSome_step ih

theorem Apart.operation {op : Operation} (h : w.Apart u)
    (hs : ∀ r, op.enters w.directory r u = false) :
    (w.step d room (.operation op)).Apart u := by
  constructor
  · intro r
    refine (w.directory.isMember_perform op r u).trans ?_
    rw [h.outside r, hs r, Bool.false_and, Bool.or_false]
  · intro item hitem
    cases hr : op.resets u with
    | true =>
      rw [step, Directory.outbox_perform_of_resets _ hr] at hitem
      cases hitem
    | false =>
      rw [step, Directory.outbox_perform _ hr, List.mem_append] at hitem
      rcases hitem with hitem | hitem
      · exact h.unheard item hitem
      · split at hitem
        · exact not_isRoomMessage_of_mem_addressed h.outside hitem
        · cases hitem

theorem Apart.message (m : Message) (h : w.Apart u) :
    (w.step d room (.message m)).Apart u := by
  constructor
  · intro r
    rw [step, Directory.isMember, rooms_dispatch]
    exact h.outside r
  · rw [step]
    rcases dispatch_cases d room m w with ⟨-, -, hworld⟩ | ⟨-, -, -, hworld⟩ |
      ⟨event, -, haccepts, -, hworld⟩
    · rw [hworld]
      exact h.unheard
    · rw [hworld]
      exact h.unheard
    · intro item hitem
      rw [hworld, (changes_after room haccepts).outbox u, List.mem_append] at hitem
      rcases hitem with hitem | hitem
      · exact h.unheard item hitem
      · split at hitem
        · exact not_isRoomMessage_of_mem_items h.outside hitem
        · cases hitem

/-- A player who is in no room is so after every step but one of joining. -/
theorem Apart.step (h : w.Apart u) (hs : ¬ s.Enters w u) : (w.step d room s).Apart u := by
  cases s with
  | operation op =>
    refine h.operation fun r => ?_
    rw [← Bool.not_eq_true]
    exact fun hr => hs ⟨r, hr⟩
  | message m => exact h.message m
  | scores t => exact ⟨h.outside, h.unheard⟩

theorem apart_steps (h : w.Apart u)
    (hss : ∀ before s after, ss = before ++ s :: after → ¬ s.Enters (w.steps d room before) u) :
    (w.steps d room ss).Apart u := by
  induction ss using List.reverseRecOn with
  | nil => exact h
  | append_singleton ss s ih =>
    rw [steps_concat]
    refine Apart.step (ih fun before t after hsplit => ?_) (hss ss s [] rfl)
    exact hss before t (after ++ [s]) (by rw [hsplit, List.append_assoc, List.cons_append])

theorem apart_logout : (w.step d room (.operation (.logout u))).Apart u := by
  constructor
  · intro r
    refine (w.directory.isMember_perform (.logout u) r u).trans ?_
    simp [Operation.leaves, Operation.enters]
  · intro item hitem
    rw [step, Directory.outbox_perform_of_resets _ (by simp [Operation.resets])] at hitem
    cases hitem

end World

theorem Settings.room_isSome_directory (s : Settings) :
    s.directory.rooms[s.bus.announceRoom]?.isSome = true := by
  rw [directory]
  refine (({} : Directory).room_isSome_perform (.createRoom s.bus.announceRoom) _).trans ?_
  simp [Operation.creates]

theorem Settings.directory_of_assemble {s : Settings} {server : Server} {parts : Assembly}
    (h : s.assemble server = .ok parts) : parts.directory = s.directory := by
  unfold assemble at h
  split at h
  · cases h
  · split at h
    · cases h
    · rw [← Except.ok.inj h]

/-! ## Main statement -/

section Main

open World (Step)

/-- After every run from the empty directory: a user is in a room exactly if the user has joined
it, finding it, and has not logged out since; a join finds the room exactly if it has been created,
and then it is there for good; nothing but the user's own joins and logouts changes this. Whatever
happens after a logout, the player hears nothing of any room before joining one again. And the room
of the announcements is there as long as the service is. -/
theorem membership_is_join_history (ops : List Operation) (room : String) (u : UserId) :
    let d := ({} : Directory).performAll ops
    (d.isMember room u = true ↔ ({} : Directory).HasJoined room u ops) ∧
    ((d.joinRoom room u).1 = true ↔ .createRoom room ∈ ops) ∧
    (.createRoom room ∈ ops →
      ∀ later, (d.performAll later).rooms[room]?.isSome = true) ∧
    (∀ op, op ≠ .logout u → op ≠ .joinRoom room u →
      (d.perform op).isMember room u = d.isMember room u) ∧
    (∀ (deployment : Deployment) announceRoom scores (ss : List Step),
      let w := (⟨d, scores⟩ : World).step deployment announceRoom (.operation (.logout u))
      (∀ before s after, ss = before ++ s :: after →
        ¬ s.Enters (w.steps deployment announceRoom before) u) →
      ∀ item ∈ (w.steps deployment announceRoom ss).directory.outbox u,
        item.isRoomMessage = false) ∧
    ∀ (settings : Settings) server parts, settings.assemble server = .ok parts →
      ∀ scores (ss : List Step),
        let w := (⟨parts.directory, scores⟩ : World).steps settings.deployment
          settings.bus.announceRoom ss
        w.directory.rooms[settings.bus.announceRoom]?.isSome = true := by
  intro d
  have hcreated : d.rooms[room]?.isSome = true ↔ .createRoom room ∈ ops := by
    simpa using ({} : Directory).room_isSome_performAll ops room
  refine ⟨?_, ?_, ?_, ?_, ?_, ?_⟩
  · simpa [Directory.isMember] using ({} : Directory).isMember_performAll ops room u
  · rw [d.fst_joinRoom, hcreated]
  · intro h later
    exact (d.room_isSome_performAll later room).2 (.inl (hcreated.2 h))
  · intro op hlogout hjoin
    have henters : op.enters d room u = false := by
      rw [← Bool.not_eq_true, Directory.enters_iff]
      exact fun h => hjoin h.1
    rw [d.isMember_perform, henters, (Directory.leaves_eq_false_iff op u).2 hlogout,
      Bool.not_false, Bool.and_true, Bool.or_false]
  · intro deployment announceRoom scores ss w hss
    exact (World.apart_steps World.apart_logout hss).unheard
  · intro settings server parts h scores ss
    refine World.room_isSome_steps ?_
    show parts.directory.rooms[settings.bus.announceRoom]?.isSome = true
    rw [Settings.directory_of_assemble h]
    exact settings.room_isSome_directory

/-- A member who logs out and in again does not hear what is sent to the room, and a service has
its room after that. -/
theorem membership_is_join_history_relogin :
    let ops : List Operation := [.createRoom "#announce", .addAccount 7 "cmyui" ⟨3⟩, .login 7,
      .joinRoom "#announce" 7]
    let d := ({} : Directory).performAll ops
    let settings : Settings := { database := { url := "dbname=scores" } }
    let ss : List Step := [.operation (.login 7), .operation (.sendToRoom "#announce" 7 "hi")]
    let w := (⟨d, {}⟩ : World).step {} "#announce" (.operation (.logout 7))
    d.isMember "#announce" 7 = true ∧
      (d.performAll [.logout 7]).rooms["#announce"]?.isSome = true ∧
      (d.perform (.login 7)).isMember "#announce" 7 = true ∧
      (∀ item ∈ (w.steps {} "#announce" ss).directory.outbox 7, item.isRoomMessage = false) ∧
      ∃ parts, settings.assemble .unreachable = .ok parts ∧
        ((⟨parts.directory, {}⟩ : World).steps {} "#announce"
          ss).directory.rooms["#announce"]?.isSome = true := by
  intro ops d settings ss w
  obtain ⟨-, -, hroom, hsame, hunheard, hservice⟩ := membership_is_join_history ops "#announce" 7
  have hin : d.isMember "#announce" 7 = true := by decide +kernel
  have hparts : (settings.assemble .unreachable).isOk = true := by decide +kernel
  refine ⟨hin, hroom List.mem_cons_self _, ?_, ?_, ?_⟩
  · exact (hsame (.login 7) nofun nofun).trans hin
  · refine hunheard {} "#announce" {} ss ?_
    intro before s after h henters
    have hs : s ∈ ss := h ▸ List.mem_append_right before List.mem_cons_self
    rcases List.mem_cons.1 hs with rfl | hs
    · obtain ⟨r, hr⟩ := henters
      cases hr
    · obtain rfl := List.mem_singleton.1 hs
      obtain ⟨r, hr⟩ := henters
      cases hr
  · cases h : settings.assemble .unreachable with
    | error e =>
      rw [h] at hparts
      cases hparts
    | ok parts => exact ⟨parts, rfl, hservice settings .unreachable parts h {} ss⟩

end Main

end Coordination
