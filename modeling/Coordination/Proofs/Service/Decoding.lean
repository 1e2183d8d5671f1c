import Coordination.Proofs.Event.Canonical
import Coordination.Proofs.Service.Effects

/-!
# Handlers and the codec

The handlers read their payloads by themselves and refuse exactly what cannot be read as an event
of their topic, since acting on an event never refuses a payload (`executes_perform`). What they
do depends on the payload only through the event, so every message could as well carry the
canonical payload of its event (`handlers_read_events`).
-/

namespace Coordination

/-! ## Failures of actions -/

namespace World

/-- Whenever the action fails, it is for want of something to act on, or a crash, and not for its
payload. -/
def Executes {α : Type} (x : Action α) : Prop :=
  ∀ w failure w', x.run w = .error failure w' → ∀ text, failure ≠ .error (.invalidPayload text)

section

variable {α β : Type}

theorem executes_pure (a : α) : Executes (pure a) := by
  intro w e w' h
  cases h

theorem executes_get : Executes (get : Action World) := by
  intro w e w' h
  cases h

theorem executes_modify (f : World → World) : Executes (modify f) := by
  intro w e w' h
  cases h

theorem executes_throw {failure : Failure HandlerError}
    (hfailure : ∀ text, failure ≠ .error (.invalidPayload text)) :
    Executes (throw failure : Action α) := by
  intro w e w' h
  cases h
  exact hfailure

theorem executes_onDirectory (x : Directory.Action α) : Executes (onDirectory x) := by
  intro w e w' h
  rw [run_onDirectory] at h
  cases hx : x.run w.directory with
  | ok a directory =>
    rw [hx] at h
    cases h
  | error refusal directory =>
    rw [hx] at h
    cases h
    exact fun text hrefusal => by cases hrefusal

theorem Executes.bind {x : Action α} {f : α → Action β} (hx : Executes x)
    (hf : ∀ a, Executes (f a)) : Executes (x >>= f) := by
  intro w e w' h
  rw [EStateM.run_bind] at h
  cases hrun : x.run w with
  | ok a w₁ =>
    rw [hrun] at h
    exact hf a w₁ e w' h
  | error e₁ w₁ =>
    rw [hrun] at h
    cases h
    exact hx w e w' hrun

end

/-- Acting on an event does not refuse payloads. -/
theorem executes_perform (room : String) (event : Event) : Executes (perform room event) := by
  cases event with
  | refreshStats user =>
    refine (executes_onDirectory _).bind fun snapshot => ?_
    split
    · exact executes_pure _
    · exact (executes_modify _).bind fun _ => executes_pure _
  | announce id =>
    refine executes_get.bind fun w => ?_
    cases hread : w.announcement? id with
    | error failure =>
      refine executes_throw fun text => ?_
      obtain ⟨_, rfl⟩ | ⟨_, rfl, -⟩ := announcement?_error_cases hread <;> nofun
    | ok r =>
      exact executes_get.bind fun _ => (executes_modify _).bind fun _ => executes_pure _
  | restrict user reason =>
    exact (executes_onDirectory _).bind fun _ => executes_get.bind fun _ => executes_pure _
  | notify user message =>
    exact (executes_onDirectory _).bind fun _ => executes_pure _

theorem act_eq_error {room : String} {w : World} {event : Event} {failure : Failure HandlerError}
    (h : w.act room event = .error failure) (text : String) :
    failure ≠ .error (.invalidPayload text) := by
  have hrun := run_perform_eq room w event
  rw [h] at hrun
  exact executes_perform room event w failure w hrun text

end World

/-! ## What handlers refuse -/

namespace Topic

variable {room payload : String} {topic : Topic} {w : World}

theorem handle_of_error {e : PayloadError} (h : Event.parse topic payload = .error e) :
    (topic.handler room).handle payload w =
      { world := w, verdict := .error (.invalidPayload e.message) } := by
  rw [handle_handler, h]

theorem handle_of_event {event : Event} (h : Event.parse topic payload = .ok event) :
    (topic.handler room).handle payload w = Effect.reaction w (w.act room event) := by
  rw [handle_handler, h]

/-- A handler refuses what cannot be read as an event of its topic, with the reader's words. -/
theorem verdict_eq_invalidPayload_iff {text : String} :
    ((topic.handler room).handle payload w).verdict = .error (.invalidPayload text) ↔
      ∃ e, Event.parse topic payload = .error e ∧ e.message = text := by
  cases hparse : Event.parse topic payload with
  | error e =>
    rw [handle_of_error hparse]
    simp
  | ok event =>
    rw [handle_of_event hparse]
    have hact : (Effect.reaction w (w.act room event)).verdict ≠ .error (.invalidPayload text) := by
      cases heffect : w.act room event with
      | ok effect =>
        intro h
        cases h
      | error failure =>
        intro h
        cases failure with
        | error e => exact World.act_eq_error heffect text (by cases h; rfl)
        | crash text => cases h
    simp [hact]

end Topic

/-! ## Canonical messages -/

/-- The message that is published for the event that a message carries. A message that carries no
event is left as it is. -/
def Message.canonical (d : Deployment) (m : Message) : Message :=
  (m.event? d).elim m (Event.toMessage d)

/-- All of a dispatch but the words of the payload. -/
def Dispatch.wordless {ω : Type} (x : Dispatch ω) : Dispatch ω := { x with invocation := none }

section

variable {d : Deployment} {room payload : String} {topic : Topic} {event : Event} {m : Message}

theorem Message.canonical_of_parse (h : Event.parse topic payload = .ok event) :
    Message.canonical d ⟨d.channel topic, payload.toUTF8⟩ = event.toMessage d := by
  obtain rfl := (Event.parse_eq_ok h).1
  rw [canonical, event?_eq_some_iff.2 ⟨payload, rfl, h⟩]
  rfl

namespace Deployment

/-- The words of an event make no difference. -/
theorem wordless_dispatch_of_parse (h : Event.parse topic payload = .ok event) (w : World) :
    ((d.registry room).dispatch ⟨d.channel topic, payload.toUTF8⟩ w).wordless =
      ((d.registry room).dispatch (event.toMessage d) w).wordless := by
  obtain rfl := (Event.parse_eq_ok h).1
  have hhandler := d.handler?_registry room event.topic
  have hreaction : (event.topic.handler room).handle payload w =
      (event.topic.handler room).handle event.encode w := by
    rw [Topic.handle_of_event h, Topic.handle_of_event event.parse_encode]
  rw [Registry.dispatch_of_text w hhandler rfl, Registry.dispatch_of_text w hhandler rfl,
    hreaction]
  rfl

theorem wordless_dispatch_canonical (d : Deployment) (room : String) (m : Message) (w : World) :
    ((d.registry room).dispatch (m.canonical d) w).wordless =
      ((d.registry room).dispatch m w).wordless := by
  cases hevent : m.event? d with
  | none => rw [Message.canonical, hevent, Option.elim_none]
  | some event =>
    obtain ⟨payload, rfl, hparse⟩ := Message.event?_eq_some_iff.1 hevent
    rw [Message.canonical_of_parse hparse, wordless_dispatch_of_parse hparse]

/-- A row of messages may be replaced by their canonical messages. -/
theorem wordless_dispatchAll_canonical (d : Deployment) (room : String) (ms : List Message)
    (w : World) :
    ((d.registry room).dispatchAll w (ms.map (Message.canonical d))).map Dispatch.wordless =
        ((d.registry room).dispatchAll w ms).map Dispatch.wordless ∧
      (d.registry room).worldAfter w (ms.map (Message.canonical d)) =
        (d.registry room).worldAfter w ms := by
  induction ms generalizing w with
  | nil => exact ⟨rfl, rfl⟩
  | cons m ms ih =>
    have hd := wordless_dispatch_canonical d room m w
    have hworld : ((d.registry room).dispatch (m.canonical d) w).world =
        ((d.registry room).dispatch m w).world := congrArg (fun x => x.world) hd
    obtain ⟨hdispatches, hafter⟩ := ih ((d.registry room).dispatch m w).world
    rw [List.map_cons, Registry.dispatchAll_cons, Registry.worldAfter_cons, hworld]
    exact ⟨congrArg₂ List.cons hd hdispatches, hafter⟩

/-- The handler of each topic, although it reads its payloads by itself, refuses a payload exactly
if it cannot be read as an event of the topic, in the words of that reader and with nothing done;
and on what can be read it reacts as on what is written for the event. So nothing but the words
changes, in the dispatch of a message or of a row of messages, if each message that carries an
event is replaced by the one that is published for it. -/
theorem handlers_read_events (d : Deployment) (room : String) :
    (∀ topic, ∃ h, (d.registry room).handler? (d.channel topic) = some h ∧ ∀ payload w,
      (∀ text, (h.handle payload w).verdict = .error (.invalidPayload text) ↔
        ∃ e, Event.parse topic payload = .error e ∧ e.message = text) ∧
      (∀ e, Event.parse topic payload = .error e → h.handle payload w =
        { world := w, verdict := .error (.invalidPayload e.message) }) ∧
      ∀ event, Event.parse topic payload = .ok event →
        h.handle payload w = h.handle event.encode w ∧
        Message.canonical d ⟨d.channel topic, payload.toUTF8⟩ =
          ⟨d.channel topic, event.encode.toUTF8⟩) ∧
    (∀ m w, ((d.registry room).dispatch (m.canonical d) w).wordless =
      ((d.registry room).dispatch m w).wordless) ∧
    ∀ ms w, ((d.registry room).dispatchAll w (ms.map (Message.canonical d))).map
        Dispatch.wordless = ((d.registry room).dispatchAll w ms).map Dispatch.wordless ∧
      (d.registry room).worldAfter w (ms.map (Message.canonical d)) =
        (d.registry room).worldAfter w ms := by
  refine ⟨fun topic => ⟨topic.handler room, d.handler?_registry room topic, fun payload w => ?_⟩,
    wordless_dispatch_canonical d room, wordless_dispatchAll_canonical d room⟩
  refine ⟨fun text => Topic.verdict_eq_invalidPayload_iff, fun e => Topic.handle_of_error, ?_⟩
  intro event h
  have hagain := Event.parse_encode_of_parse h
  rw [Topic.handle_of_event h, Topic.handle_of_event hagain, Message.canonical_of_parse h,
    ← (Event.parse_eq_ok h).1]
  exact ⟨rfl, rfl⟩

/-- A restriction of a player in two spellings, which takes effect, and a payload without a bar. -/
theorem handlers_read_events_restrict :
    let d : Deployment := {}
    let w : World := { directory := ({} : Directory).addAccount 7 "fp" ⟨3⟩ }
    let h := Topic.restrict.handler "#announce"
    h.handle " +007|a|b " w = h.handle "7|a|b " w ∧ (h.handle "7|a|b " w).verdict = .ok ∧
    Message.canonical d ⟨d.channel .restrict, " +007|a|b ".toUTF8⟩ =
      ⟨d.channel .restrict, "7|a|b ".toUTF8⟩ ∧
    h.handle "7,a" w = { world := w, verdict := .error (.invalidPayload
      "expected \"<id>|<text>\", got \"7,a\"") } := by
  intro d w h
  obtain ⟨hhandlers, -, -⟩ := handlers_read_events d "#announce"
  obtain ⟨h', hhandler, hreads⟩ := hhandlers .restrict
  obtain rfl : h' = h :=
    Option.some.inj (hhandler.symm.trans (d.handler?_registry "#announce" .restrict))
  have hread : Event.parse .restrict " +007|a|b " = .ok (.restrict 7 "a|b ") := by decide +kernel
  have hwritten : (Event.restrict 7 "a|b ").encode = "7|a|b " := by decide +kernel
  have hrefused : Event.parse .restrict "7,a" = .error (.missingSeparator "7,a") := by
    decide +kernel
  have hwords : (PayloadError.missingSeparator "7,a").message =
      "expected \"<id>|<text>\", got \"7,a\"" := by decide +kernel
  obtain ⟨-, -, hsame⟩ := hreads " +007|a|b " w
  obtain ⟨-, hrefuse, -⟩ := hreads "7,a" w
  obtain ⟨hreaction, hcanonical⟩ := hsame _ hread
  rw [hwritten] at hreaction hcanonical
  refine ⟨hreaction, by decide +kernel, hcanonical, ?_⟩
  rw [hrefuse _ hrefused, hwords]

end Deployment

end

end Coordination
