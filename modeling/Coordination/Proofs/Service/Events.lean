import Coordination.Proofs.Bus.Timeline
import Coordination.Proofs.Score.Leaderboard
import Coordination.Proofs.Service.Routing
import Coordination.Service.Run

/-!
# What is published is applied

Events that are published for a service before its publisher goes away are applied exactly once
and in order (`applies_events`). The pipe keeps their messages in order, the run dispatches
them until the pipe is closed, and each dispatch does what its event does. No handler crashes
unless there are so many scores that one of them cannot be placed (`not_unplaceable`).
-/

namespace Coordination

/-! ## Publishing -/

namespace Script

/-- Publishes messages one after the other and goes away. -/
def publishAll (ms : List Message) : Script :=
  ms.map (fun m => (0, .publish m)) ++ [(0, .close)]

variable (ms : List Message)

theorem closes_publishAll : (publishAll ms).Closes :=
  ⟨(0, .close), List.mem_append_right _ List.mem_cons_self, rfl⟩

theorem untilClose_publishAll : (publishAll ms).untilClose = publishAll ms := by
  induction ms with
  | nil => rfl
  | cons m ms ih => exact congrArg ((0, .publish m) :: ·) ih

theorem cancelTime?_publishAll : (publishAll ms).cancelTime? = none := by
  rw [cancelTime?, untilClose_publishAll]
  simp [publishAll]

/-- Every message is published, in this order. -/
theorem messages_published_publishAll : messages (publishAll ms).published = ms := by
  rw [published, untilClose_publishAll]
  induction ms with
  | nil => rfl
  | cons m ms ih => exact congrArg (m :: ·) ih

theorem horizon_publishAll : (publishAll ms).horizon = 0 := by
  rw [horizon]
  induction ms with
  | nil => rfl
  | cons m ms ih => exact ih

end Script

/-! ## Applying -/

namespace Delivery

/-- The event that an invocation was for, as the deployment understands its channel. -/
def event? (d : Deployment) (x : Delivery) : Option Event := do
  let topic ← d.topicOf? x.message.channel
  let payload ← x.invocation
  (Event.parse topic payload).toOption

theorem event?_of_toMessage (d : Deployment) {event : Event} {x : Delivery}
    (hm : x.message = event.toMessage d) (hi : x.invocation = some event.encode) :
    x.event? d = some event := by
  have hchannel : x.message.channel = d.channel event.topic := congrArg Message.channel hm
  rw [event?, hchannel, d.topicOf?_channel, hi]
  show (Event.parse event.topic event.encode).toOption = some event
  rw [Event.parse_encode]
  rfl

theorem map_event?_of_toMessage (d : Deployment) {events : List Event} {xs : List Delivery}
    (hm : xs.map Delivery.message = events.map (Event.toMessage d))
    (hi : xs.map Delivery.invocation = events.map fun event => some event.encode) :
    xs.map (event? d) = events.map some := by
  induction xs generalizing events with
  | nil =>
    rw [List.map_nil, eq_comm, List.map_eq_nil_iff] at hm
    rw [hm]
    rfl
  | cons x xs ih =>
    cases events with
    | nil => cases hm
    | cons event events =>
      obtain ⟨hm, hms⟩ := List.cons.inj hm
      obtain ⟨hi, his⟩ := List.cons.inj hi
      rw [List.map_cons, List.map_cons, event?_of_toMessage d hm hi, ih hms his]

end Delivery

/-- Among so few scores each can be placed. -/
theorem Event.not_unplaceable {t : ScoreStore} (event : Event) (ht : t.scores.size < 2 ^ 32 - 1) :
    ¬ event.Unplaceable t := by
  rintro ⟨id, s, text, -, -, hcrash⟩
  rw [Repository.placement_ofStore ht] at hcrash
  cases hcrash

/-- What the counters come to when events are dispatched. -/
theorem World.ActedOn.recordAll {room : String} {events : List Event} {w : World}
    {ds : List (Dispatch World)} (h : w.ActedOn room events ds) :
    Counters.recordAll {} (ds.map Dispatch.outcome) = {
      received := events.length
      delivered := (w.effects room events).countP Except.isOk
      failed := (w.effects room events).countP Effect.isError
      panicked := (w.effects room events).countP Effect.isCrash } := by
  have hlen : ds.length = events.length := by
    simpa using congrArg List.length h.invocations
  have hdelivered : (ds.map Dispatch.outcome).countP Outcome.isDelivered =
      (w.effects room events).countP Except.isOk := by
    simpa [List.countP_map, Function.comp_def] using congrArg (List.countP id) h.delivered
  have hfailed : (ds.map Dispatch.outcome).countP Outcome.isFailed =
      (w.effects room events).countP Effect.isError := by
    simpa [List.countP_map, Function.comp_def] using congrArg (List.countP id) h.failed
  have hunrouted : (ds.map Dispatch.outcome).countP Outcome.isUnrouted = 0 := by
    rw [List.countP_map, List.countP_eq_zero]
    intro x hx
    simp [(h.quiet x hx).2]
  have hpanicked : (ds.map Dispatch.outcome).countP Outcome.isPanicked =
      (w.effects room events).countP Effect.isCrash := by
    simpa [List.countP_map, Function.comp_def] using congrArg (List.countP id) h.panicked
  rw [Counters.recordAll_eq, hdelivered, hfailed, hunrouted, hpanicked, List.length_map, hlen]
  simp

/-! ## Runs -/

section Completes

variable {σ : Type} {d : Deployment} {room : String} {events : List Event} {w : World}
  {s : Run σ World}

/-- A run to the end over the messages of events has handed each handler its event. -/
theorem Run.Completes.map_event? {c : Counters} {faults : Nat}
    (h : s.Completes (d.registry room) w c (events.map (Event.toMessage d)) faults) :
    s.deliveries.map (Delivery.event? d) = events.map some := by
  have hresults := congrArg (List.map fun result => result.2.2) h.results
  rw [List.map_map, List.map_map] at hresults
  have hacted := (d.dispatchAll_events room events w).1
  exact Delivery.map_event?_of_toMessage d h.messages (hresults.trans hacted.invocations)

theorem Run.Completes.counters_events
    (h : s.Completes (d.registry room) w {} (events.map (Event.toMessage d)) 0) :
    s.counters = {
      received := events.length
      delivered := (w.effects room events).countP Except.isOk
      failed := (w.effects room events).countP Effect.isError
      panicked := (w.effects room events).countP Effect.isCrash } := by
  rw [h.counters, h.outcomes]
  exact congrArg (Counters.withErrors · 0) (d.dispatchAll_events room events w).1.recordAll

end Completes

namespace Service

/-- The service's bus dispatches everything that is published for events. -/
theorem completes_events (s : Service) (events : List Event) (w : World) :
    (s.bus.runScript s.pace (.publishAll (events.map (Event.toMessage s.deployment)))
      w).Completes (s.deployment.registry s.announceRoom) w {}
        (events.map (Event.toMessage s.deployment)) 0 := by
  have hacted := (s.deployment.dispatchAll_events s.announceRoom events w).1
  have hquiet : s.bus.registry.Quiet w (events.map (Event.toMessage s.deployment)) :=
    fun x hx => (hacted.quiet x hx).1
  rw [← Script.messages_published_publishAll (events.map _)] at hquiet
  have h := Run.completes_script s.bus s.pace (Or.inr (Script.horizon_publishAll _))
    (Script.closes_publishAll _) (Script.cancelTime?_publishAll _) hquiet
  rwa [Script.messages_published_publishAll] at h

/-- Published events are applied exactly once and in order. The run ends because the publisher
is gone; it has dispatched the events' messages, each of which its handler has read as the
event that it was published for; the world is what the events make of it one after the other;
and the events that took effect, those that were refused and those whose handlers crashed are
what is counted as delivered, failed and panicked. As long as the scores are few enough for each
of them to be placed, nothing crashes. -/
theorem applies_events (s : Service) (events : List Event) (w : World) :
    let messages := events.map (Event.toMessage s.deployment)
    let effects := w.effects s.announceRoom events
    let run := s.bus.runScript s.pace (.publishAll messages) w
    run.ending = some .sourceClosed ∧
    run.messages = messages ∧
    run.deliveries.map (Delivery.event? s.deployment) = events.map some ∧
    run.world = events.foldl (World.after s.announceRoom) w ∧
    run.counters.received = events.length ∧
    run.counters.unrouted = 0 ∧ run.counters.transportErrors = 0 ∧
    run.counters.delivered = effects.countP Except.isOk ∧
    run.counters.failed = effects.countP Effect.isError ∧
    run.counters.panicked = effects.countP Effect.isCrash ∧
    run.counters.delivered + run.counters.failed + run.counters.panicked = events.length ∧
    (w.scores.scores.size < 2 ^ 32 - 1 → run.counters.panicked = 0 ∧
      run.counters.delivered + run.counters.failed = events.length) := by
  intro messages effects run
  have hrun : run.Completes (s.deployment.registry s.announceRoom) w {} messages 0 :=
    s.completes_events events w
  have hworld := hrun.world.trans (s.deployment.dispatchAll_events s.announceRoom events w).2
  have hall : effects.countP Except.isOk + effects.countP Effect.isError +
      effects.countP Effect.isCrash = events.length :=
    (Effect.countP_add_countP_add_countP effects).trans
      (World.length_effects s.announceRoom w events)
  refine ⟨hrun.ending, hrun.messages, hrun.map_event?, hworld, ?_⟩
  rw [hrun.counters_events]
  refine ⟨rfl, rfl, rfl, rfl, rfl, rfl, hall, fun hfew => ?_⟩
  have hcrash : effects.countP Effect.isCrash = 0 :=
    w.countP_isCrash_effects s.announceRoom fun event _ => event.not_unplaceable hfew
  exact ⟨hcrash, by rwa [hcrash] at hall⟩

/-- A restriction takes effect, and a note to an unknown player and the announcement of an unknown
score are refused. -/
theorem applies_events_refused :
    let s : Service := {}
    let w : World := { directory := ({} : Directory).addAccount 7 "cmyui" ⟨3⟩ }
    let events : List Event := [.restrict 7 "multiaccounting", .notify 8 "lost", .announce 5]
    let run := s.bus.runScript s.pace (.publishAll (events.map (Event.toMessage s.deployment))) w
    w.scores.scores.size < 2 ^ 32 - 1 ∧ run.counters.panicked = 0 ∧
      run.counters.delivered + run.counters.failed = 3 ∧ run.counters.delivered = 1 := by
  intro s w events run
  have hfew : w.scores.scores.size < 2 ^ 32 - 1 := by decide +kernel
  obtain ⟨-, -, -, -, -, -, -, hdelivered, -, -, -, hquiet⟩ := applies_events s events w
  obtain ⟨hpanicked, hall⟩ := hquiet hfew
  exact ⟨hfew, hpanicked, hall, hdelivered.trans (by decide +kernel)⟩

end Service

end Coordination
