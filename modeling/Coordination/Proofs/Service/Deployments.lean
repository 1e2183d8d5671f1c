import Coordination.Proofs.Service.Effects
import Coordination.Service.Broker
import Mathlib.Data.List.Nodup

/-!
# Deployments do not meet

A service subscribes to the channels that its own events are published on, and to no others: there
is one for each topic, with the topic's handler. No topic's name is the end of another one's, so
the name that a channel ends with is told from the channel alone, and with it the tag in front
(`channel_eq_iff`). Hence deployments with different tags have no channel in common, even if one
tag goes on where the other ends, and what is published for one of them has no handler in the
other (`channels_are_its_own`).
-/

namespace Coordination

/-! ## Topics -/

namespace Topic

/-- No topic's name is the end of another one's. -/
theorem eq_of_isSuffix {s t : Topic} (h : s.name.toList <:+ t.name.toList) : s = t := by
  cases s <;> cases t <;> first | rfl | exact absurd h (by decide)

/-- There are events of every topic. -/
theorem exists_event (topic : Topic) : ∃ event : Event, event.topic = topic := by
  cases topic with
  | refreshStats => exact ⟨.refreshStats 0, rfl⟩
  | announce => exact ⟨.announce 0, rfl⟩
  | restrict => exact ⟨.restrict 0 "", rfl⟩
  | notify => exact ⟨.notify 0 "", rfl⟩

/-- A topic's handler bears its name. -/
theorem name_handler (room : String) (topic : Topic) : (topic.handler room).name = topic.name := by
  cases topic <;> rfl

end Topic

/-! ## Channels -/

namespace Deployment

/-- A channel's topic and tag are told from its name. -/
theorem channel_eq_iff {d e : Deployment} {s t : Topic} :
    d.channel s = e.channel t ↔ d = e ∧ s = t := by
  constructor
  · intro h
    have hchars : d.tag.toList ++ s.name.toList = e.tag.toList ++ t.name.toList := by
      rw [← String.toList_append, ← String.toList_append]
      exact congrArg String.toList h
    have hs : s.name.toList <:+ d.tag.toList ++ s.name.toList := List.suffix_append _ _
    have ht : t.name.toList <:+ d.tag.toList ++ s.name.toList := hchars ▸ List.suffix_append _ _
    obtain rfl : s = t := by
      rcases List.suffix_or_suffix_of_suffix hs ht with hend | hend
      · exact Topic.eq_of_isSuffix hend
      · exact (Topic.eq_of_isSuffix hend).symm
    obtain ⟨tag⟩ := d
    obtain rfl : tag = e.tag := String.toList_inj.1 (List.append_cancel_right hchars)
    exact ⟨rfl, rfl⟩
  · rintro ⟨rfl, rfl⟩
    rfl

theorem mem_channels {d : Deployment} {channel : String} :
    channel ∈ d.channels ↔ ∃ topic, channel = d.channel topic := by
  rw [channels, List.mem_map]
  constructor
  · rintro ⟨topic, -, rfl⟩
    exact ⟨topic, rfl⟩
  · rintro ⟨topic, rfl⟩
    exact ⟨topic, by cases topic <;> decide, rfl⟩

theorem nodup_channels (d : Deployment) : d.channels.Nodup :=
  List.Nodup.map (fun _ _ h => d.channel_inj.1 h) (by decide)

variable (d : Deployment) (room : String)

theorem handler?_registry_isSome {channel : String} :
    ((d.registry room).handler? channel).isSome ↔ channel ∈ d.channels := by
  rw [d.handler?_registry_eq, Option.isSome_map, Option.isSome_iff_exists, mem_channels]
  exact exists_congr fun topic => d.topicOf?_eq_some_iff

/-- The channels with handlers are the deployment's, each of them once. -/
theorem channels_registry : (d.registry room).channels.Perm d.channels := by
  rw [List.perm_ext_iff_of_nodup (Registry.nodup_channels _) d.nodup_channels]
  intro channel
  rw [Registry.mem_channels, handler?_registry_isSome]

/-- Something is published on a channel if and only if it is one of the deployment's. -/
theorem mem_channels_iff_published {channel : String} :
    channel ∈ d.channels ↔ ∃ event : Event, (event.toMessage d).channel = channel := by
  rw [mem_channels]
  constructor
  · rintro ⟨topic, rfl⟩
    obtain ⟨event, rfl⟩ := topic.exists_event
    exact ⟨event, rfl⟩
  · rintro ⟨event, rfl⟩
    exact ⟨event.topic, rfl⟩

/-! ## Other deployments -/

variable {d} {e : Deployment}

/-- What is published for another deployment is dropped, and nothing is done or reported. -/
theorem dispatch_of_foreign (h : e ≠ d) (event : Event) (w : World) :
    (d.registry room).dispatch (event.toMessage e) w =
      { outcome := ⟨e.channel event.topic, .unrouted⟩, world := w } := by
  have hnone : (d.registry room).handler? (e.channel event.topic) = none := by
    rw [← Option.not_isSome_iff_eq_none, handler?_registry_isSome, mem_channels]
    rintro ⟨topic, htopic⟩
    exact h (channel_eq_iff.1 htopic).1
  simp [Registry.dispatch, Event.toMessage, hnone]

theorem dispatchAll_of_foreign (h : e ≠ d) (events : List Event) (w : World) :
    (d.registry room).worldAfter w (events.map (Event.toMessage e)) = w ∧
    ∀ x ∈ (d.registry room).dispatchAll w (events.map (Event.toMessage e)),
      x.outcome.fate = .unrouted := by
  induction events with
  | nil => exact ⟨rfl, by simp⟩
  | cons event events ih =>
    rw [List.map_cons, Registry.worldAfter_cons, Registry.dispatchAll_cons,
      dispatch_of_foreign room h event w]
    exact ⟨ih.1, List.forall_mem_cons.2 ⟨rfl, ih.2⟩⟩

end Deployment

namespace Service

theorem channels_of_subscribe {bus : Bus World} {url : String} {broker : Broker}
    {channels : List String} {script : Script}
    (h : subscribe bus url broker = .ok (channels, script)) : channels = bus.registry.channels := by
  unfold subscribe at h
  split at h
  · cases h
  · split at h
    · cases h
    · cases h
    · exact (Prod.mk.inj (Except.ok.inj h)).1.symm

/-- A service serves the channels of its deployment, and these are its own. They are distinct, and
a channel's topic is read back from it. Each has its topic's handler, and no other channel has
one. What the service subscribes to is what its events are published on, each channel once. With
another deployment it has no channel in common: whatever is published there is unrouted here. -/
theorem channels_are_its_own (s : Service) :
    let d := s.deployment
    let r := s.bus.registry
    (∀ topic topic', d.channel topic = d.channel topic' → topic = topic') ∧
    (∀ channel topic, d.topicOf? channel = some topic ↔ channel = d.channel topic) ∧
    (∀ topic, r.handler? (d.channel topic) = some (topic.handler s.announceRoom) ∧
      (topic.handler s.announceRoom).name = topic.name) ∧
    (∀ channel, (r.handler? channel).isSome ↔ ∃ topic, channel = d.channel topic) ∧
    (∀ url broker channels script, subscribe s.bus url broker = .ok (channels, script) →
      channels.Perm d.channels ∧ channels.Nodup ∧
      ∀ channel, channel ∈ channels ↔ ∃ event : Event, (event.toMessage d).channel = channel) ∧
    ∀ e : Deployment, e ≠ d →
      (∀ topic topic', e.channel topic ≠ d.channel topic') ∧
      (∀ (event : Event) (w : World), r.dispatch (event.toMessage e) w =
        { outcome := ⟨e.channel event.topic, .unrouted⟩, world := w }) ∧
      ∀ (events : List Event) (w : World),
        r.worldAfter w (events.map (Event.toMessage e)) = w ∧
        ∀ x ∈ r.dispatchAll w (events.map (Event.toMessage e)), x.outcome.fate = .unrouted := by
  intro d r
  refine ⟨fun _ _ => d.channel_inj.1, fun _ _ => d.topicOf?_eq_some_iff, ?_, ?_, ?_, ?_⟩
  · exact fun topic => ⟨d.handler?_registry s.announceRoom topic, topic.name_handler _⟩
  · exact fun _ => (d.handler?_registry_isSome s.announceRoom).trans Deployment.mem_channels
  · intro url broker channels script h
    rw [channels_of_subscribe h]
    have hperm := d.channels_registry s.announceRoom
    exact ⟨hperm, Registry.nodup_channels _,
      fun channel => hperm.mem_iff.trans d.mem_channels_iff_published⟩
  · intro e he
    refine ⟨fun _ _ h => he (Deployment.channel_eq_iff.1 h).1, ?_, ?_⟩
    · exact Deployment.dispatch_of_foreign s.announceRoom he
    · exact Deployment.dispatchAll_of_foreign s.announceRoom he

/-- One tag goes on with a topic's name where the other ends. -/
theorem channels_are_its_own_longer :
    let s : Service := { deployment := ⟨"refx:"⟩ }
    let channels := s.bus.registry.channels
    let e : Deployment := ⟨"refx:notify"⟩
    subscribe s.bus "redis://127.0.0.1/" (.serving []) = .ok (channels, []) ∧
    channels.Perm ["refx:refresh_stats", "refx:announce", "refx:restrict", "refx:notify"] ∧
    e ≠ s.deployment ∧
    s.bus.registry.dispatch ((Event.notify 7 "hello").toMessage e) {} =
      { outcome := ⟨"refx:notifynotify", .unrouted⟩, world := {} } := by
  intro s channels e
  have hvalid : BrokerUrl.isValid "redis://127.0.0.1/" = true := by decide +kernel
  have hserved : subscribe s.bus "redis://127.0.0.1/" (.serving []) = .ok (channels, []) := by
    rw [subscribe, hvalid]
    rfl
  have hother : e ≠ s.deployment := by decide
  obtain ⟨-, -, -, -, hsubscribed, hforeign⟩ := channels_are_its_own s
  exact ⟨hserved, (hsubscribed _ _ _ _ hserved).1, hother,
    (hforeign e hother).2.1 (.notify 7 "hello") {}⟩

end Service

end Coordination
