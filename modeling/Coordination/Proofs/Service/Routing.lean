import Coordination.Proofs.Bus.Replay
import Coordination.Proofs.Event.RoundTrip
import Coordination.Proofs.Service.Actions
import Coordination.Service.Handlers

/-!
# Events at their handlers

A deployment's channels are distinct, so the message of an event reaches the handler of the
event's topic (`handler?_registry`). Every handler reads its payload as an event and then acts
on it (`handle_handler`). Together: dispatching what is published for events does to the world
what the events do, one after the other (`dispatchAll_events`).
-/

namespace Coordination

/-! ## Effects in a row -/

namespace World

/-- The world after an event. A refused event leaves it as it is. -/
def after (room : String) (w : World) (event : Event) : World :=
  match w.act room event with
  | .ok (world, _) => world
  | .error _ => w

/-- The effects of events, each in the world that the ones before it left. -/
def effects (room : String) (w : World) : List Event → List Effect
  | [] => []
  | event :: events => w.act room event :: effects room (w.after room event) events

theorem scores_after (room : String) (w : World) (event : Event) :
    (w.after room event).scores = w.scores := by
  unfold after
  cases h : w.accepts event with
  | true =>
    obtain ⟨log, hlog⟩ := act_of_accepted room h
    rw [hlog]
  | false =>
    obtain ⟨failure, hfailure, -⟩ := act_of_refused room h
    rw [hfailure]

/-- No effect is a crash if every score that is announced can be placed. -/
theorem countP_isCrash_effects (room : String) (w : World) {events : List Event}
    (h : ∀ event ∈ events, ¬ event.Unplaceable w.scores) :
    (w.effects room events).countP Effect.isCrash = 0 := by
  induction events generalizing w with
  | nil => rfl
  | cons event events ih =>
    obtain ⟨hevent, hevents⟩ := List.forall_mem_cons.1 h
    rw [effects, List.countP_cons_of_neg (by rw [isCrash_act room hevent]; decide)]
    exact ih _ (by rwa [scores_after])

theorem length_effects (room : String) (w : World) (events : List Event) :
    (w.effects room events).length = events.length := by
  induction events generalizing w with
  | nil => rfl
  | cons event events ih => exact congrArg (· + 1) (ih _)

end World

/-- How a handler reacts with an effect. -/
def Effect.reaction (w : World) : Effect → Reaction World
  | .ok (world, log) => { world, log }
  | .error failure => { world := w, verdict := failure.verdict }

theorem World.world_reaction (room : String) (w : World) (event : Event) :
    (Effect.reaction w (w.act room event)).world = w.after room event := by
  unfold after
  cases w.act room event <;> rfl

/-! ## Handlers -/

/-- A handler whose action is that of an event reacts to the event that it reads. -/
theorem Handler.handle_ofAction {α : Type} {room : String} (name : String)
    (read : String → Except PayloadError α) {act : α → World.Action (List LogLine)}
    (event : α → Event) (h : ∀ a, act a = World.perform room (event a)) (payload : String)
    (w : World) :
    (ofAction name read act).handle payload w =
      match (read payload).map event with
      | .ok event => Effect.reaction w (w.act room event)
      | .error e => { world := w, verdict := .error (.invalidPayload e.message) } := by
  simp only [ofAction]
  cases read payload with
  | error e => rfl
  | ok a =>
    simp only [Except.map, h, World.run_perform_eq]
    cases w.act room (event a) <;> rfl

/-- A handler reads its payload as an event of its topic. What cannot be read is refused, and
what is read takes effect. -/
theorem Topic.handle_handler (room : String) (topic : Topic) (payload : String) (w : World) :
    (topic.handler room).handle payload w =
      match Event.parse topic payload with
      | .ok event => Effect.reaction w (w.act room event)
      | .error e => { world := w, verdict := .error (.invalidPayload e.message) } := by
  cases topic with
  | refreshStats =>
    exact Handler.handle_ofAction _ Payload.parseId .refreshStats (fun _ => rfl) payload w
  | announce =>
    exact Handler.handle_ofAction _ Payload.parseId .announce (fun _ => rfl) payload w
  | restrict =>
    exact Handler.handle_ofAction _ Payload.parsePair (fun pair => .restrict pair.1 pair.2)
      (fun _ => rfl) payload w
  | notify =>
    exact Handler.handle_ofAction _ Payload.parsePair (fun pair => .notify pair.1 pair.2)
      (fun _ => rfl) payload w

/-- Dispatches in which the handlers acted on the events one after the other: those that took
effect are delivered, those that were refused have failed, those whose handler crashed have
panicked, and none is unrouted or cancels the run. -/
structure World.ActedOn (room : String) (w : World) (events : List Event)
    (ds : List (Dispatch World)) : Prop where
  invocations : ds.map Dispatch.invocation = events.map fun event => some event.encode
  delivered : ds.map (fun x => x.outcome.isDelivered) = (w.effects room events).map Except.isOk
  failed : ds.map (fun x => x.outcome.isFailed) = (w.effects room events).map Effect.isError
  panicked : ds.map (fun x => x.outcome.isPanicked) = (w.effects room events).map Effect.isCrash
  quiet : ∀ x ∈ ds, x.cancels = false ∧ x.outcome.isUnrouted = false

namespace Deployment

variable (d : Deployment) (room : String)

/-- Each of the deployment's channels has the handler of its topic. -/
theorem handler?_registry (topic : Topic) :
    (d.registry room).handler? (d.channel topic) = some (topic.handler room) := by
  cases topic <;>
    simp [registry, Topic.all, Registry.ofList, Registry.handler?_register, channel_inj]

/-- The message of an event is invoked with the event's payload and takes effect. -/
theorem dispatch_toMessage (event : Event) (w : World) :
    let reaction := Effect.reaction w (w.act room event)
    let outcome : Outcome :=
      ⟨d.channel event.topic, reaction.verdict.fate (event.topic.handler room).name⟩
    (d.registry room).dispatch (event.toMessage d) w =
      { outcome, world := w.after room event, log := reaction.log ++ outcome.log
        invocation := some event.encode } := by
  have hhandle : (event.topic.handler room).handle event.encode w =
      Effect.reaction w (w.act room event) := by
    rw [Topic.handle_handler, Event.parse_encode]
  have hshape : (Effect.reaction w (w.act room event)).duration = 0 ∧
      (Effect.reaction w (w.act room event)).cancels = false := by
    cases w.act room event <;> exact ⟨rfl, rfl⟩
  simp only [Registry.dispatch, Event.toMessage, handler?_registry, Text.decodeUtf8_toUTF8,
    hhandle, World.world_reaction, hshape]

/-- The messages of events are acted on in order. -/
theorem dispatchAll_events (events : List Event) (w : World) :
    w.ActedOn room events ((d.registry room).dispatchAll w (events.map (Event.toMessage d))) ∧
      (d.registry room).worldAfter w (events.map (Event.toMessage d)) =
        events.foldl (World.after room) w := by
  induction events generalizing w with
  | nil => exact ⟨⟨rfl, rfl, rfl, rfl, by simp⟩, rfl⟩
  | cons event events ih =>
    obtain ⟨⟨hinvocations, hdelivered, hfailed, hpanicked, hquiet⟩, hworld⟩ :=
      ih (w.after room event)
    have hd := dispatch_toMessage d room event w
    rw [List.map_cons, Registry.dispatchAll_cons, Registry.worldAfter_cons, hd]
    refine ⟨⟨?_, ?_, ?_, ?_, ?_⟩, hworld⟩
    · exact congrArg (some event.encode :: ·) hinvocations
    · rw [List.map_cons, hdelivered, World.effects, List.map_cons]
      rcases w.act room event with (_ | _) | _ <;> rfl
    · rw [List.map_cons, hfailed, World.effects, List.map_cons]
      rcases w.act room event with (_ | _) | _ <;> rfl
    · rw [List.map_cons, hpanicked, World.effects, List.map_cons]
      rcases w.act room event with (_ | _) | _ <;> rfl
    · intro x hx
      rcases List.mem_cons.1 hx with rfl | hx
      · rcases w.act room event with (_ | _) | _ <;> exact ⟨rfl, rfl⟩
      · exact hquiet x hx

end Deployment

end Coordination
