import Coordination.Proofs.Service.Effects
import Coordination.Proofs.Service.Events

/-!
# Events for different players commute

A restriction and a notification concern one player each. Whether such an event is accepted can be
told from the world before all of them (`accepts_after`), and what they make of an account depends
only on the events for its player (`account?_foldl_after`). So the order in which the events of
different players are dispatched does not matter (`player_events_commute`).
-/

namespace Coordination

open Directory (Operation)

/-! ## Dispatching in a row -/

namespace Bus

variable {ω : Type}

/-- Dispatches messages one after the other and counts them. -/
def dispatchEach (bus : Bus ω) (w : ω) (ms : List Message) : Bus ω × ω :=
  ms.foldl (fun (bus, w) m => let (bus, x) := bus.dispatch m w; (bus, x.world)) (bus, w)

theorem dispatchEach_eq (bus : Bus ω) (w : ω) (ms : List Message) :
    bus.dispatchEach w ms =
      let outcomes := (bus.registry.dispatchAll w ms).map Dispatch.outcome
      ({ bus with counters := bus.counters.recordAll outcomes },
        bus.registry.worldAfter w ms) := by
  induction ms generalizing bus w with
  | nil => rfl
  | cons m ms ih => exact ih (bus.dispatch m w).1 (bus.dispatch m w).2.world

end Bus

/-- Outcomes that count alike from zero on count alike from everywhere. -/
theorem Counters.recordAll_congr {os ps : List Outcome} (c : Counters)
    (h : recordAll {} os = recordAll {} ps) : c.recordAll os = c.recordAll ps := by
  simp only [recordAll_eq, Counters.mk.injEq, Nat.zero_add] at h ⊢
  simp only [h, and_self]

/-! ## Events for one player -/

namespace Event

/-- Whether the event restricts or notifies a player. Then it concerns nobody else. -/
def isPersonal : Event → Bool
  | restrict _ _ | notify _ _ => true
  | refreshStats _ | announce _ => false

/-- Whether the event restricts or notifies this player. -/
def isFor (u : UserId) : Event → Bool
  | restrict user _ | notify user _ => decide (u = user)
  | refreshStats _ | announce _ => false

/-- What an event for one player makes of the player's account. -/
def onPlayer (a : Account) : Event → Account
  | restrict _ reason => a.restrict reason
  | notify _ message => a.enqueue (.notification message)
  | refreshStats _ | announce _ => a

theorem isOnline_onPlayer (a : Account) (event : Event) :
    (event.onPlayer a).isOnline = a.isOnline := by
  cases event <;> simp [onPlayer, Account.restrict, Account.isOnline, Account.enqueue]

/-- Two lists of events for single players that have the same events, those for each player in the
same order. -/
structure Reordered (es es' : List Event) : Prop where
  personal : ∀ event ∈ es, event.isPersonal
  perm : es.Perm es'
  order : ∀ u, es.filter (isFor u) = es'.filter (isFor u)

theorem Reordered.symm {es es' : List Event} (h : Reordered es es') : Reordered es' es where
  personal event hevent := h.personal event (h.perm.mem_iff.2 hevent)
  perm := h.perm.symm
  order u := (h.order u).symm

end Event

namespace World

/-- Worlds with the same accounts, rooms and scores are the same. -/
theorem eq_of_accounts {w w' : World}
    (haccounts : ∀ u, w.directory.account? u = w'.directory.account? u)
    (hrooms : w.directory.rooms = w'.directory.rooms) (hscores : w.scores = w'.scores) :
    w = w' := by
  obtain ⟨⟨accounts, rooms⟩, scores⟩ := w
  obtain ⟨⟨accounts', rooms'⟩, scores'⟩ := w'
  obtain rfl : accounts = accounts' := Std.ExtTreeMap.ext_getElem? fun {u} => haccounts u
  obtain rfl : rooms = rooms' := hrooms
  obtain rfl : scores = scores' := hscores
  rfl

variable (room : String) {w : World} {event : Event}

/-- Whether or not it is accepted, an event for one player comes to one operation. -/
theorem after_eq_perform {op : Operation} (hop : event.operations room w = [op])
    (hrefused : w.accepts event = false → w.directory.perform op = w.directory) :
    w.after room event = { w with directory := w.directory.perform op } := by
  cases h : w.accepts event with
  | true => rw [after_of_accepted room h, hop]; rfl
  | false =>
    obtain ⟨failure, hfailure, -⟩ := act_of_refused room h
    rw [after, hfailure, hrefused h]

theorem after_restrict (user : UserId) (reason : String) :
    w.after room (.restrict user reason) =
      { w with directory := w.directory.perform (.restrict user reason) } := by
  refine after_eq_perform room rfl fun h => ?_
  show w.directory.attempt (Directory.restrict user reason) = w.directory
  have hunknown : ¬ (w.directory.account? user).isSome := ne_true_of_eq_false h
  rw [Directory.attempt, Directory.run_restrict, if_neg hunknown]

theorem after_notify (user : UserId) (message : String) :
    w.after room (.notify user message) =
      { w with directory := w.directory.perform (.notify user message) } := by
  refine after_eq_perform room rfl fun h => ?_
  show w.directory.attempt (Directory.notify user message) = w.directory
  have hoffline : ¬ w.directory.isOnline user := ne_true_of_eq_false h
  rw [Directory.attempt, Directory.run_notify, if_neg hoffline]

/-- An event for one player changes the player's account and no other one. -/
theorem account?_after (h : event.isPersonal) (u : UserId) :
    (w.after room event).directory.account? u =
      (w.directory.account? u).map fun a => if event.isFor u then event.onPlayer a else a := by
  cases event with
  | restrict user reason =>
    rw [after_restrict]
    refine (w.directory.account?_perform (.restrict user reason) u rfl).trans ?_
    refine Option.map_congr fun a _ => ?_
    simp [Operation.onAccount, Event.isFor, Event.onPlayer]
  | notify user message =>
    rw [after_notify]
    refine (w.directory.account?_perform (.notify user message) u rfl).trans ?_
    refine Option.map_congr fun a _ => ?_
    simp [Operation.onAccount, Event.isFor, Event.onPlayer]
  | refreshStats user => cases h
  | announce id => cases h

theorem rooms_after (h : event.isPersonal) :
    (w.after room event).directory.rooms = w.directory.rooms ∧
      (w.after room event).scores = w.scores := by
  cases event with
  | restrict user reason =>
    rw [after_restrict]
    exact ⟨Directory.rooms_attempt_updateKnown _ _ _, rfl⟩
  | notify user message =>
    rw [after_notify]
    exact ⟨Directory.rooms_attempt_updateOnline _ _ _, rfl⟩
  | refreshStats user => cases h
  | announce id => cases h

/-- Events for one player neither create accounts nor begin or end sessions, so they do not decide
whether others of them are accepted. -/
theorem accepts_after {event' : Event} (h : event.isPersonal) (h' : event'.isPersonal) :
    (w.after room event).accepts event' = w.accepts event' := by
  have honline (a : Account) (u : UserId) :
      (if event.isFor u then event.onPlayer a else a).isOnline = a.isOnline := by
    split
    · exact event.isOnline_onPlayer a
    · rfl
  cases event' with
  | restrict user reason =>
    show ((w.after room event).directory.account? user).isSome = _
    rw [account?_after room h, Option.isSome_map]
    rfl
  | notify user message =>
    show ((w.after room event).directory.account? user).any _ = (w.directory.account? user).any _
    rw [account?_after room h, Option.any_map]
    exact congrArg (Option.any · _) (funext fun a => honline a user)
  | refreshStats user => cases h'
  | announce id => cases h'

/-! ## Lists of events -/

variable {es es' : List Event}

/-- What personal events make of an account depends only on those for its player. -/
theorem account?_foldl_after (h : ∀ event ∈ es, event.isPersonal) (w : World) (u : UserId) :
    (es.foldl (after room) w).directory.account? u =
      (w.directory.account? u).map fun a => (es.filter (Event.isFor u)).foldl Event.onPlayer a := by
  induction es generalizing w with
  | nil => exact Option.map_id'.symm
  | cons event es ih =>
    obtain ⟨hevent, hes⟩ := List.forall_mem_cons.1 h
    rw [List.foldl_cons, ih hes, account?_after room hevent, Option.map_map]
    refine Option.map_congr fun a _ => ?_
    by_cases hu : event.isFor u <;> simp [hu]

theorem frame_foldl_after (h : ∀ event ∈ es, event.isPersonal) (w : World) :
    (es.foldl (after room) w).directory.rooms = w.directory.rooms ∧
      (es.foldl (after room) w).scores = w.scores := by
  induction es generalizing w with
  | nil => exact ⟨rfl, rfl⟩
  | cons event es ih =>
    obtain ⟨hevent, hes⟩ := List.forall_mem_cons.1 h
    obtain ⟨hrooms, hscores⟩ := ih hes (w.after room event)
    obtain ⟨hrooms', hscores'⟩ := rooms_after room hevent (w := w)
    exact ⟨hrooms.trans hrooms', hscores.trans hscores'⟩

/-- Of personal events those take effect that the world accepts before all of them. -/
theorem map_isOk_effects (h : ∀ event ∈ es, event.isPersonal) (w : World) :
    (w.effects room es).map Except.isOk = es.map w.accepts := by
  induction es generalizing w with
  | nil => rfl
  | cons event es ih =>
    obtain ⟨hevent, hes⟩ := List.forall_mem_cons.1 h
    have hrest : es.map (w.after room event).accepts = es.map w.accepts :=
      List.map_congr_left fun event' hevent' => accepts_after room hevent (hes event' hevent')
    have hhead : (w.act room event).isOk = w.accepts event := by
      cases haccepts : w.accepts event with
      | true =>
        obtain ⟨log, hlog⟩ := act_of_accepted room haccepts
        rw [hlog]
        rfl
      | false =>
        obtain ⟨failure, hfailure, -⟩ := act_of_refused room haccepts
        rw [hfailure]
        rfl
    rw [effects, List.map_cons, hhead, ih hes, hrest, List.map_cons]

/-- The world in the end does not depend on the order of events for different players. -/
theorem foldl_after_eq (h : Event.Reordered es es') (w : World) :
    es.foldl (after room) w = es'.foldl (after room) w := by
  obtain ⟨hrooms, hscores⟩ := frame_foldl_after room h.personal w
  obtain ⟨hrooms', hscores'⟩ := frame_foldl_after room h.symm.personal w
  refine eq_of_accounts (fun u => ?_) (hrooms.trans hrooms'.symm) (hscores.trans hscores'.symm)
  refine (account?_foldl_after room h.personal w u).trans ?_
  rw [h.order]
  exact (account?_foldl_after room h.symm.personal w u).symm

end World

/-! ## Main statement -/

/-- Reordered events are counted alike. -/
theorem Event.Reordered.recordAll {es es' : List Event} (h : Reordered es es') (d : Deployment)
    (room : String) (w : World) :
    let outcomes (es : List Event) := ((d.registry room).dispatchAll w
      (es.map (Event.toMessage d))).map Dispatch.outcome
    Counters.recordAll {} (outcomes es) = Counters.recordAll {} (outcomes es') := by
  intro outcomes
  have hcount {es : List Event} (hes : ∀ event ∈ es, event.isPersonal) :
      Counters.recordAll {} (outcomes es) = {
        received := es.length
        delivered := es.countP w.accepts
        failed := es.length - es.countP w.accepts } := by
    have hok : (w.effects room es).countP Except.isOk = es.countP w.accepts := by
      simpa [List.countP_map, Function.comp_def] using
        congrArg (List.countP id) (World.map_isOk_effects room hes w)
    have hcrash : (w.effects room es).countP Effect.isCrash = 0 := by
      refine w.countP_isCrash_effects room fun event hevent => ?_
      rintro ⟨id, s, text, rfl, -⟩
      cases hes _ hevent
    have hall := Effect.countP_add_countP_add_countP (w.effects room es)
    rw [World.length_effects, hok, hcrash] at hall
    rw [(d.dispatchAll_events room es w).1.recordAll, hok, hcrash,
      show (w.effects room es).countP Effect.isError = es.length - es.countP w.accepts by omega]
  rw [hcount h.personal, hcount h.symm.personal, h.perm.length_eq, h.perm.countP_eq]

/-- Restrictions and notifications for different players commute: dispatched in any order that
keeps the order of each player's events, they lead to the same bus with the same counters and to
the same world, with every account, privilege, outbox and room. This holds whether or not the
players are known or online. -/
theorem player_events_commute (d : Deployment) (room : String) (c : Counters) (w : World)
    {es es' : List Event} (h : Event.Reordered es es') :
    let bus : Bus World := { registry := d.registry room, counters := c }
    bus.dispatchEach w (es.map (Event.toMessage d)) =
      bus.dispatchEach w (es'.map (Event.toMessage d)) := by
  intro bus
  have hworld : bus.registry.worldAfter w (es.map (Event.toMessage d)) =
      bus.registry.worldAfter w (es'.map (Event.toMessage d)) := by
    rw [(d.dispatchAll_events room es w).2, (d.dispatchAll_events room es' w).2,
      World.foldl_after_eq room h]
  have hcounters := c.recordAll_congr (h.recordAll d room w)
  rw [bus.dispatchEach_eq, bus.dispatchEach_eq, hworld]
  exact congrArg (fun counters => ({ bus with counters }, _)) hcounters

/-- A player who is restricted between two notes, one who is online, one who is offline and one
who is unknown. -/
theorem player_events_commute_mixed :
    let w : World := ⟨twoOnline.perform (.addAccount 9 "away" ⟨1⟩), {}⟩
    let es : List Event := [.notify 7 "before", .restrict 7 "multiaccounting", .notify 8 "hello",
      .notify 9 "lost", .restrict 404 "bot", .notify 7 "after", .restrict 9 "away"]
    let es' : List Event := [.notify 9 "lost", .notify 8 "hello", .restrict 404 "bot",
      .notify 7 "before", .restrict 9 "away", .restrict 7 "multiaccounting", .notify 7 "after"]
    let bus : Bus World := { registry := ({} : Deployment).registry "#announce" }
    Event.Reordered es es' ∧
    bus.dispatchEach w (es.map (Event.toMessage {})) =
      bus.dispatchEach w (es'.map (Event.toMessage {})) ∧
    (bus.dispatchEach w (es.map (Event.toMessage {}))).1.counters =
      { received := 7, delivered := 5, failed := 2 } := by
  intro w es es' bus
  have hreordered : Event.Reordered es es' := by
    refine ⟨by decide, by decide, fun u => ?_⟩
    by_cases h7 : u = 7
    · subst h7
      decide
    · by_cases h9 : u = 9
      · subst h9
        decide
      · simp [es, es', List.filter_cons, Event.isFor, h7, h9]
  exact ⟨hreordered, player_events_commute {} "#announce" {} w hreordered, by decide +kernel⟩

end Coordination
