import Coordination.Proofs.Bus.Decision
import Coordination.Proofs.Event.Canonical
import Coordination.Proofs.Service.Routing

/-!
# What a message does

A message carries an event if its channel is one of the deployment's and its payload is text that
can be read as an event of the channel's topic (`event?`). It is delivered if it carries an event
that the world accepts, and then the world changes as the event says and in no other way
(`changes_after`). Every other message leaves the world as it is.
-/

namespace Coordination

open Directory (Operation)

/-! ## The event of a message -/

/-- The event that a message carries, as a deployment understands it. -/
def Message.event? (d : Deployment) (m : Message) : Option Event := do
  let topic ← d.topicOf? m.channel
  let payload ← (Text.decodeUtf8 m.payload).toOption
  (Event.parse topic payload).toOption

theorem toOption_eq_some_iff {ε α : Type} {x : Except ε α} {a : α} :
    x.toOption = some a ↔ x = .ok a := by
  cases x with
  | error e => simp [Except.toOption]
  | ok b => simp [Except.toOption]

namespace Deployment

variable (d : Deployment) (room : String)

theorem topicOf?_eq_some_iff {channel : String} {topic : Topic} :
    d.topicOf? channel = some topic ↔ channel = d.channel topic := by
  constructor
  · intro h
    obtain ⟨rest, hrest, hname⟩ := Option.bind_eq_some_iff.1 h
    have hsplit := List.isPrefixOf?_eq_some_iff_append_eq.1 hrest
    have htopic := Topic.name_of_ofName? hname
    rw [← String.toList_inj, Deployment.channel, String.toList_append, htopic, ← hsplit,
      String.toList_ofList]
  · rintro rfl
    exact d.topicOf?_channel topic

/-- The deployment's channels have handlers and no other channel has one. -/
theorem handler?_registry_eq (channel : String) : (d.registry room).handler? channel =
    (d.topicOf? channel).map (Topic.handler room) := by
  cases h : d.topicOf? channel with
  | some topic =>
    obtain rfl := (topicOf?_eq_some_iff d).1 h
    exact d.handler?_registry room topic
  | none =>
    have hne (topic : Topic) : channel ≠ d.channel topic := by
      rintro rfl
      rw [d.topicOf?_channel] at h
      cases h
    simp [registry, Topic.all, Registry.ofList, Registry.handler?_register, hne]
    rfl

end Deployment

/-- A message carries an event if it is a payload of the event on the channel of its topic. -/
theorem Message.event?_eq_some_iff {d : Deployment} {m : Message} {event : Event} :
    m.event? d = some event ↔ ∃ payload, m = ⟨d.channel event.topic, payload.toUTF8⟩ ∧
      Event.parse event.topic payload = .ok event := by
  constructor
  · intro h
    obtain ⟨topic, htopic, hread⟩ := Option.bind_eq_some_iff.1 h
    obtain ⟨payload, hpayload, hparse⟩ := Option.bind_eq_some_iff.1 hread
    rw [toOption_eq_some_iff] at hpayload hparse
    obtain rfl := (Event.parse_eq_ok hparse).1
    refine ⟨payload, ?_, hparse⟩
    rw [← (d.topicOf?_eq_some_iff).1 htopic, Text.decodeUtf8_eq_ok_iff.1 hpayload]
  · rintro ⟨payload, rfl, hparse⟩
    rw [event?, d.topicOf?_channel, Text.decodeUtf8_toUTF8]
    show (Event.parse event.topic payload).toOption = some event
    rw [hparse]
    rfl

theorem Message.event?_toMessage (d : Deployment) (event : Event) :
    (event.toMessage d).event? d = some event :=
  event?_eq_some_iff.2 ⟨event.encode, rfl, event.parse_encode⟩

/-! ## Delivered or not -/

namespace World

variable {w : World} {event : Event}

theorem after_of_accepted (room : String) (h : w.accepts event) : w.after room event =
    { w with directory := w.directory.performAll (event.operations room w) } := by
  obtain ⟨log, hlog⟩ := act_of_accepted room h
  rw [after, hlog]

end World

section Dispatch

variable (d : Deployment) (room : String) (m : Message) (w : World)

theorem dispatch_of_unknown (h : d.topicOf? m.channel = none) :
    let x := (d.registry room).dispatch m w
    x.outcome.fate = .unrouted ∧ x.world = w := by
  have hhandler : (d.registry room).handler? m.channel = none := by
    rw [d.handler?_registry_eq, h]
    rfl
  rw [Registry.dispatch_of_unrouted w hhandler]
  exact ⟨rfl, rfl⟩

/-- A message for one of the deployment's channels that carries no event. -/
theorem dispatch_of_unread {topic : Topic} (h : d.topicOf? m.channel = some topic)
    (hevent : m.event? d = none) :
    let x := (d.registry room).dispatch m w
    (∃ name e, x.outcome.fate = .failed name e) ∧ x.world = w := by
  have hhandler : (d.registry room).handler? m.channel = some (topic.handler room) := by
    rw [d.handler?_registry_eq, h]
    rfl
  cases hpayload : Text.decodeUtf8 m.payload with
  | error fault =>
    rw [Registry.dispatch_of_fault w hhandler hpayload]
    exact ⟨⟨_, _, rfl⟩, rfl⟩
  | ok payload =>
    cases hparse : Event.parse topic payload with
    | error e =>
      rw [Registry.dispatch_of_text w hhandler (Text.decodeUtf8_eq_ok_iff.1 hpayload),
        Topic.handle_handler, hparse]
      exact ⟨⟨_, _, rfl⟩, rfl⟩
    | ok event =>
      simp [Message.event?, h, hpayload, hparse, Except.toOption] at hevent

/-- A message that carries an event is handled as the event says. -/
theorem dispatch_of_event {event : Event} (h : m.event? d = some event) :
    let x := (d.registry room).dispatch m w
    let reaction := Effect.reaction w (w.act room event)
    (∃ name, x.outcome.fate = reaction.verdict.fate name) ∧ x.world = reaction.world := by
  obtain ⟨payload, rfl, hparse⟩ := Message.event?_eq_some_iff.1 h
  have hhandler := d.handler?_registry room event.topic
  rw [Registry.dispatch_of_text w hhandler rfl, Topic.handle_handler, hparse]
  exact ⟨⟨_, rfl⟩, rfl⟩

/-- What a dispatch by the deployment's registry can come to: there is no handler for the
channel; or there is one, but it fails or crashes, and the message carries no event that the world
accepts; or the event that it carries takes effect. -/
theorem dispatch_cases :
    let x := (d.registry room).dispatch m w
    (d.topicOf? m.channel = none ∧ x.outcome.fate = .unrouted ∧ x.world = w) ∨
    ((d.topicOf? m.channel).isSome ∧ (m.event? d).any w.accepts = false ∧
      x.outcome.isFailure ∧ x.world = w) ∨
    (∃ event, m.event? d = some event ∧ w.accepts event ∧
      (∃ name, x.outcome.fate = .delivered name) ∧ x.world = w.after room event) := by
  intro x
  cases htopic : d.topicOf? m.channel with
  | none => exact Or.inl ⟨rfl, dispatch_of_unknown d room m w htopic⟩
  | some topic =>
    right
    cases hevent : m.event? d with
    | none =>
      obtain ⟨⟨name, e, hfate⟩, hworld⟩ := dispatch_of_unread d room m w htopic hevent
      exact Or.inl ⟨rfl, rfl, by rw [Outcome.isFailure, hfate], hworld⟩
    | some event =>
      obtain ⟨⟨name, hfate⟩, hworld⟩ := dispatch_of_event d room m w hevent
      cases haccepts : w.accepts event with
      | false =>
        left
        obtain ⟨failure, hfailure, -⟩ := World.act_of_refused room haccepts
        rw [hfailure] at hfate hworld
        refine ⟨rfl, haccepts, ?_, hworld⟩
        rw [Outcome.isFailure, hfate]
        cases failure <;> rfl
      | true =>
        right
        obtain ⟨log, hlog⟩ := World.act_of_accepted room haccepts
        rw [World.world_reaction] at hworld
        rw [hlog] at hfate
        exact ⟨event, rfl, haccepts, ⟨name, hfate⟩, hworld⟩

end Dispatch

/-! ## What an event changes -/

namespace Privileges

/-- The public bit is the lowest one. -/
theorem isUnrestricted_eq_testBit (p : Privileges) :
    p.isUnrestricted = p.bits.toNat.testBit 0 := by
  have hbit : (p.bits &&& unrestrictedBit).toNat = p.bits.toNat % 2 := by
    rw [UInt32.toNat_and, show unrestrictedBit.toNat = 1 from rfl, Nat.and_one_is_mod]
  rw [Bool.eq_iff_iff, isUnrestricted, bne_iff_ne, ne_eq, ← UInt32.toNat_inj, hbit,
    Nat.testBit_zero, decide_eq_true_iff, UInt32.toNat_zero]
  omega

/-- Only the public bit is taken away. -/
theorem testBit_restrict (p : Privileges) (i : Nat) :
    p.restrict.bits.toNat.testBit i = (p.bits.toNat.testBit i && i != 0) := by
  show (p.bits &&& ~~~unrestrictedBit).toBitVec.getLsbD i =
    (p.bits.toBitVec.getLsbD i && i != 0)
  have hmask : (~~~unrestrictedBit).toBitVec.getLsbD i = (decide (i < 32) && i != 0) := by
    rw [UInt32.toBitVec_not, BitVec.getLsbD_not]
    show (decide (i < 32) && !(1#32).getLsbD i) = _
    rw [BitVec.getLsbD_one]
    cases i <;> simp
  rw [UInt32.toBitVec_and, BitVec.getLsbD_and, hmask]
  -- A number of 32 bits has no others.
  by_cases hi : i < 32
  · rw [decide_eq_true hi, Bool.true_and]
  · rw [BitVec.getLsbD_of_ge _ i (Nat.le_of_not_lt hi), Bool.false_and, Bool.false_and]

theorem eq_of_testBit_eq {p q : Privileges}
    (h : ∀ i, p.bits.toNat.testBit i = q.bits.toNat.testBit i) : p = q := by
  have hbits : p.bits = q.bits := UInt32.toNat_inj.1 (Nat.eq_of_testBit_eq h)
  cases p
  cases q
  exact congrArg Privileges.mk hbits

end Privileges

/-- What becomes of an account that may lose its public bit, whose session may load the stored
stats, and whose outbox gets items at its end. Nothing else of it changes. -/
structure Account.Becomes (a a' : Account) (restricts refreshes : Bool) (items : List Outbound) :
    Prop where
  name : a'.name = a.name
  privileges : ∀ i, a'.privileges.bits.toNat.testBit i =
    (a.privileges.bits.toNat.testBit i && !(restricts && i == 0))
  stored : a'.stored = a.stored
  session : a'.session = a.session.map fun s =>
    { stats := if refreshes then a.stored else s.stats, outbox := s.outbox ++ items }

namespace Account

variable (a : Account)

theorem becomes_self : a.Becomes a false false [] where
  name := rfl
  privileges i := by simp
  stored := rfl
  session := by cases h : a.session <;> simp

theorem becomes_enqueue (item : Outbound) : a.Becomes (a.enqueue item) false false [item] where
  name := rfl
  privileges i := by simp [enqueue]
  stored := rfl
  session := by simp [enqueue]

theorem becomes_restrict (reason : String) :
    a.Becomes (a.restrict reason) true false [.restricted reason] where
  name := rfl
  privileges i := by simp [restrict, enqueue, Privileges.testBit_restrict, bne]
  stored := rfl
  session := by simp [restrict, enqueue]

theorem becomes_reload : a.Becomes a.reload false true [] where
  name := rfl
  privileges i := by simp [reload]
  stored := rfl
  session := by simp [reload]

theorem becomes_enqueue_reload (item : Outbound) :
    a.Becomes (a.reload.enqueue item) false true [item] where
  name := rfl
  privileges i := by simp [reload, enqueue]
  stored := rfl
  session := by simp [reload, enqueue, Function.comp_def]

end Account

namespace Event

/-- Whether the event restricts the user. -/
@[simp] def restricts (u : UserId) : Event → Bool
  | restrict user _ => decide (u = user)
  | _ => false

/-- Whether the event loads the user's stored stats. -/
@[simp] def refreshes (u : UserId) : Event → Bool
  | refreshStats user => decide (u = user)
  | _ => false

/-- What the event puts into the user's outbox, if the user is online. A player without an account
speaks under the decimal id. -/
def items (room : String) (w : World) (u : UserId) : Event → List Outbound
  | refreshStats user =>
    match w.directory.account? user with
    | some a =>
      if a.privileges.bits.toNat.testBit 0 then
        [.userStats { user, name := a.name, restricted := false, stats := a.stored }]
      else []
    | none => []
  | announce id =>
    match w.announced? id with
    | some (s, a) =>
      let name := match w.directory.account? s.player with
        | some owner => owner.name
        | none => toString s.player.toInt
      if w.directory.isMember room u then [.roomMessage room s.player name a.text] else []
    | none => []
  | restrict user reason => if u = user then [.restricted reason] else []
  | notify user message => if u = user then [.notification message] else []

/-- What an event changes in the world when it takes effect, and that it changes nothing else. -/
structure Changes (room : String) (w : World) (event : Event) (w' : World) : Prop where
  known : ∀ u a, w.directory.account? u = some a → ∃ a', w'.directory.account? u = some a' ∧
    a.Becomes a' (event.restricts u) (event.refreshes u) (event.items room w u)
  unknown : ∀ u, w.directory.account? u = none → w'.directory.account? u = none
  rooms : w'.directory.rooms = w.directory.rooms
  scores : w'.scores = w.scores

/-- Accounts change each by itself. -/
theorem changes_of_map {room : String} {w w' : World} {event : Event}
    (f : UserId → Account → Account)
    (haccounts : ∀ u, w'.directory.account? u = (w.directory.account? u).map (f u))
    (hbecomes : ∀ (u : UserId) (a : Account),
      a.Becomes (f u a) (event.restricts u) (event.refreshes u) (event.items room w u))
    (hrooms : w'.directory.rooms = w.directory.rooms) (hscores : w'.scores = w.scores) :
    event.Changes room w w' where
  known u a ha := ⟨f u a, by rw [haccounts, ha, Option.map_some], hbecomes u a⟩
  unknown u hu := by rw [haccounts, hu, Option.map_none]
  rooms := hrooms
  scores := hscores

/-- What is read of an account after the event is told by the account before it. -/
theorem Changes.map_account? {β : Type} {room : String} {w w' : World} {event : Event} {u : UserId}
    {f g : Account → β} (h : event.Changes room w w')
    (hfg : ∀ a a' : Account,
      a.Becomes a' (event.restricts u) (event.refreshes u) (event.items room w u) → f a' = g a) :
    (w'.directory.account? u).map f = (w.directory.account? u).map g := by
  cases ha : w.directory.account? u with
  | none => rw [h.unknown u ha, Option.map_none, Option.map_none]
  | some a =>
    obtain ⟨a', ha', hbecomes⟩ := h.known u a ha
    rw [ha', Option.map_some, Option.map_some, hfg a a' hbecomes]

end Event

/-! ### One event at a time -/

section Changes

variable {w : World} (room : String)

theorem changes_refreshStats {user : UserId} (h : w.accepts (.refreshStats user)) :
    (Event.refreshStats user).Changes room w (w.after room (.refreshStats user)) := by
  obtain ⟨a, ha, -⟩ := (Directory.isOnline_iff _ _).1 h
  have hreload (u : UserId) := w.directory.account?_perform (.reloadStats user) u rfl
  have hpublic := a.privileges.isUnrestricted_eq_testBit
  rw [World.after_of_accepted room h]
  cases hp : a.privileges.isUnrestricted with
  | false =>
    have hops : (Event.refreshStats user).operations room w = [.reloadStats user] := by
      simp [Event.operations, ha, hp]
    rw [hops]
    refine Event.changes_of_map _ hreload (fun u a' => ?_)
      (Directory.rooms_perform_reloadStats _ _) rfl
    have hitems : (Event.refreshStats user).items room w u = [] := by
      simp [Event.items, ha, ← hpublic, hp]
    rw [hitems]
    by_cases hu : u = user
    · simpa [Operation.onAccount, hu] using a'.becomes_reload
    · simpa [Operation.onAccount, hu] using a'.becomes_self
  | true =>
    let snapshot : PlayerSnapshot := ⟨user, a.name, false, a.stored⟩
    have hops : (Event.refreshStats user).operations room w =
        [.reloadStats user, .broadcastStats snapshot] := by
      simp [Event.operations, ha, hp, snapshot]
    rw [hops]
    refine Event.changes_of_map
      (fun u a' => ((Operation.reloadStats user).onAccount w.directory u a').enqueue
        (.userStats snapshot)) (fun u => ?_) (fun u a' => ?_)
      ((Directory.rooms_broadcastStats _ _).trans (Directory.rooms_perform_reloadStats _ _)) rfl
    · refine (Directory.account?_broadcastStats _ snapshot u).trans ?_
      rw [hreload u, Option.map_map]
      rfl
    · have hitems : (Event.refreshStats user).items room w u = [.userStats snapshot] := by
        simp [Event.items, ha, ← hpublic, hp, snapshot]
      rw [hitems]
      by_cases hu : u = user
      · simpa [Operation.onAccount, hu] using a'.becomes_enqueue_reload (.userStats snapshot)
      · simpa [Operation.onAccount, hu] using a'.becomes_enqueue (.userStats snapshot)

theorem operations_announce {id : ScoreId} (h : w.accepts (.announce id)) :
    ∃ s a, w.announced? id = some (s, a) ∧
      (Event.announce id).operations room w = [.sendToRoom room s.player a.text] := by
  obtain ⟨⟨s, a⟩, hs⟩ := Option.isSome_iff_exists.1 h
  exact ⟨s, a, hs, by simp only [Event.operations, hs]⟩

theorem changes_announce {id : ScoreId} (h : w.accepts (.announce id)) :
    (Event.announce id).Changes room w (w.after room (.announce id)) := by
  obtain ⟨s, a, hs, hops⟩ := operations_announce room h
  rw [World.after_of_accepted room h, hops]
  refine Event.changes_of_map (Operation.onAccount w.directory · (.sendToRoom room s.player a.text))
    (fun u => w.directory.account?_perform (.sendToRoom room s.player a.text) u rfl)
    (fun u a' => ?_) (Directory.rooms_sendToRoom _ _ _ _) rfl
  have hname : w.directory.senderName s.player =
      match w.directory.account? s.player with
      | some owner => owner.name
      | none => toString s.player.toInt := by
    unfold Directory.senderName
    cases w.directory.account? s.player <;> rfl
  simp only [Operation.onAccount, Event.restricts, Event.refreshes, Event.items, hs, ← hname]
  split
  · exact a'.becomes_enqueue _
  · exact a'.becomes_self

theorem changes_restrict {user : UserId} {reason : String}
    (h : w.accepts (.restrict user reason)) :
    (Event.restrict user reason).Changes room w (w.after room (.restrict user reason)) := by
  rw [World.after_of_accepted room h]
  refine Event.changes_of_map (Operation.onAccount w.directory · (.restrict user reason))
    (fun u => w.directory.account?_perform (.restrict user reason) u rfl) (fun u a => ?_)
    (Directory.rooms_attempt_updateKnown _ _ _) rfl
  by_cases hu : u = user
  · simpa [Operation.onAccount, Event.items, hu] using a.becomes_restrict reason
  · simpa [Operation.onAccount, Event.items, hu] using a.becomes_self

theorem changes_notify {user : UserId} {message : String}
    (h : w.accepts (.notify user message)) :
    (Event.notify user message).Changes room w (w.after room (.notify user message)) := by
  rw [World.after_of_accepted room h]
  refine Event.changes_of_map (Operation.onAccount w.directory · (.notify user message))
    (fun u => w.directory.account?_perform (.notify user message) u rfl) (fun u a => ?_)
    (Directory.rooms_attempt_updateOnline _ _ _) rfl
  by_cases hu : u = user
  · simpa [Operation.onAccount, Event.items, hu] using a.becomes_enqueue (.notification message)
  · simpa [Operation.onAccount, Event.items, hu] using a.becomes_self

theorem changes_after {event : Event} (h : w.accepts event) :
    event.Changes room w (w.after room event) := by
  cases event with
  | refreshStats user => exact changes_refreshStats room h
  | announce id => exact changes_announce room h
  | restrict user reason => exact changes_restrict room h
  | notify user message => exact changes_notify room h

/-- An announcement for a room that does not exist does nothing. -/
theorem after_announce_of_missing {id : ScoreId} (h : w.accepts (.announce id))
    (hroom : w.directory.rooms[room]? = none) : w.after room (.announce id) = w := by
  obtain ⟨s, a, -, hops⟩ := operations_announce room h
  rw [World.after_of_accepted room h, hops]
  show { w with directory := (w.directory.sendToRoom room s.player a.text).2 } = w
  rw [Directory.sendToRoom_of_missing _ _ _ _ hroom]

/-- A message that is delivered carries an event that is accepted, and does what the event does. -/
theorem after_of_delivered {d : Deployment} {m : Message} {event : Event}
    (hm : m.event? d = some event) (h : ((d.registry room).dispatch m w).outcome.isDelivered) :
    w.accepts event ∧ ((d.registry room).dispatch m w).world = w.after room event := by
  rcases dispatch_cases d room m w with ⟨-, hfate, -⟩ | ⟨-, -, hfailure, -⟩ |
    ⟨event', hm', haccepts, -, hworld⟩
  · simp [Outcome.isDelivered, hfate] at h
  · unfold Outcome.isDelivered at h
    unfold Outcome.isFailure at hfailure
    split at hfailure <;> simp_all
  · obtain rfl : event = event' := Option.some.inj (hm.symm.trans hm')
    exact ⟨haccepts, hworld⟩

end Changes

/-! ## Main statements -/

section Main

variable {d : Deployment} {room : String} {m : Message} {w : World}

/-- A message that is not delivered leaves the world as it was. It is refused because it carries
no event, or one that the world does not accept. -/
theorem undelivered_keeps_world
    (h : ((d.registry room).dispatch m w).outcome.isUnrouted ∨
      ((d.registry room).dispatch m w).outcome.isFailed) :
    ((d.registry room).dispatch m w).world = w ∧ (m.event? d).any w.accepts = false := by
  rcases dispatch_cases d room m w with ⟨htopic, -, hworld⟩ | ⟨-, hrefused, -, hworld⟩ |
    ⟨event, -, -, ⟨name, hfate⟩, -⟩
  · refine ⟨hworld, ?_⟩
    simp [Message.event?, htopic]
  · exact ⟨hworld, hrefused⟩
  · simp [Outcome.isUnrouted, Outcome.isFailed, hfate] at h

/-- Two players who are online, one of them in the room. -/
def twoOnline : Directory := ({} : Directory).performAll
  [.addAccount 7 "cmyui" ⟨3⟩, .addAccount 8 "rapha" ⟨1⟩, .login 7, .login 8,
    .createRoom "#announce", .joinRoom "#announce" 8]

/-- A score whose beatmap has no name is not announced. -/
theorem undelivered_keeps_world_nameless :
    let score : Score :=
      { id := 5, beatmap := "a5b99395", player := 7, mode := .vanillaOsu, score := 1000, pp := 0
        accuracy := 0, maxCombo := 0, misses := 0, mods := ⟨0⟩, status := .best }
    let w : World := ⟨twoOnline, ({} : ScoreStore).insertScore score⟩
    let x := (({} : Deployment).registry "#announce").dispatch ((Event.announce 5).toMessage {}) w
    x.outcome.isFailed ∧ x.world = w := by
  intro score w x
  have h : x.outcome.isFailed := by decide +kernel
  exact ⟨h, (undelivered_keeps_world (Or.inr h)).1⟩

/-- A delivered event changes the world as it says and in no other way: the public bit is taken from
who is restricted, the stored stats are loaded by who is refreshed, and each outbox gets its items
at its end. -/
theorem delivered_changes {event : Event} (hm : m.event? d = some event)
    (h : ((d.registry room).dispatch m w).outcome.isDelivered) :
    w.accepts event ∧
    event.Changes room w ((d.registry room).dispatch m w).world ∧
    (∀ id, event = .announce id → w.directory.rooms[room]? = none →
      ((d.registry room).dispatch m w).world = w) := by
  obtain ⟨haccepts, hworld⟩ := after_of_delivered room hm h
  rw [hworld]
  refine ⟨haccepts, changes_after room haccepts, ?_⟩
  rintro id rfl hroom
  exact after_announce_of_missing room haccepts hroom

/-- Both players are shown the stats that the one has reloaded. -/
theorem delivered_changes_refresh :
    let w : World := ⟨twoOnline, {}⟩
    let event := Event.refreshStats 7
    let x := (({} : Deployment).registry "#announce").dispatch (event.toMessage {}) w
    x.outcome.isDelivered ∧ event.Changes "#announce" w x.world ∧
      (x.world.directory.outbox 7).length = 1 ∧ (x.world.directory.outbox 8).length = 1 := by
  intro w event x
  have h : x.outcome.isDelivered := by decide +kernel
  have hchanges := (delivered_changes (Message.event?_toMessage {} event) h).2.1
  exact ⟨h, hchanges, by decide +kernel, by decide +kernel⟩

end Main

end Coordination
