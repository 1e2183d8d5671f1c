import Coordination.Bus.Playback
import Coordination.Proofs.Bus.Replay

/-!
# What handlers return stays with their messages

Two registries serve the same channels, and their handlers take the same time and cancel at the
same invocations. Then two runs over one source are in step at all times (`inStep_turns`),
whatever the handlers return: only the counts of what was delivered, what failed and what
panicked can differ, and only in how they share their sum.
-/

namespace Coordination

variable {σ ω₁ ω₂ : Type}

/-! ## What does not depend on results -/

/-- Counters in which the routed messages are counted together. -/
structure Flow where
  received : Nat
  unrouted : Nat
  /-- Delivered, failed and panicked. -/
  routed : Nat
  transportErrors : Nat
deriving DecidableEq, Repr

def Counters.flow (c : Counters) : Flow where
  received := c.received
  unrouted := c.unrouted
  routed := c.delivered + c.failed + c.panicked
  transportErrors := c.transportErrors

/-- A delivery without what its handler returned. -/
structure Passage where
  start : Nat
  message : Message
  duration : Nat
  invocation : Option String
  /-- Whether there was a handler for the channel. -/
  routed : Bool
deriving DecidableEq

def Delivery.passage (d : Delivery) : Passage :=
  ⟨d.start, d.message, d.duration, d.invocation, !d.outcome.isUnrouted⟩

/-- Where an outcome is counted is a matter of its kind, but its share in the flow depends on
the channel alone. -/
theorem Counters.flow_record {c₁ c₂ : Counters} {o₁ o₂ : Outcome} (hc : c₁.flow = c₂.flow)
    (ho : o₁.isUnrouted = o₂.isUnrouted) : (c₁.record o₁).flow = (c₂.record o₂).flow := by
  have key : ∀ (c : Counters) (o : Outcome), (c.record o).flow =
      { c.flow with
        received := c.flow.received + 1
        unrouted := c.flow.unrouted + if o.isUnrouted then 1 else 0
        routed := c.flow.routed + if o.isUnrouted then 0 else 1 } := by
    intro c o
    obtain ⟨channel, fate⟩ := o
    cases fate <;> simp [record, flow, Outcome.isUnrouted] <;> omega
  rw [key, key, hc, ho]

theorem Counters.flow_recordTransportError {c₁ c₂ : Counters} (hc : c₁.flow = c₂.flow) :
    c₁.recordTransportError.flow = c₂.recordTransportError.flow := by
  simp only [flow, recordTransportError, Flow.mk.injEq] at hc ⊢
  omega

/-! ## Timing -/

/-- While the messages are dispatched one after the other, the handlers of both registries take
the same time and cancel at the same invocations. What they return and what they do to their
worlds is up to each of them. -/
def SameTiming (r₁ : Registry ω₁) (w₁ : ω₁) (r₂ : Registry ω₂) (w₂ : ω₂)
    (ms : List Message) : Prop :=
  ∀ (history : List Message) (m : Message), history ++ [m] <+: ms →
    ∀ (h₁ : Handler ω₁) (h₂ : Handler ω₂) (payload : String),
      r₁.handler? m.channel = some h₁ → r₂.handler? m.channel = some h₂ →
      Text.decodeUtf8 m.payload = .ok payload →
        let a := h₁.handle payload (r₁.worldAfter w₁ history)
        let b := h₂.handle payload (r₂.worldAfter w₂ history)
        a.duration = b.duration ∧ a.cancels = b.cancels

theorem SameTiming.mono {r₁ : Registry ω₁} {w₁ : ω₁} {r₂ : Registry ω₂} {w₂ : ω₂}
    {ms ns : List Message} (h : SameTiming r₁ w₁ r₂ w₂ ns) (hp : ms <+: ns) :
    SameTiming r₁ w₁ r₂ w₂ ms :=
  fun history m hm => h history m (hm.trans hp)

/-- Everything but the result of the last dispatch is the same. -/
theorem SameTiming.dispatch {r₁ : Registry ω₁} {w₁ : ω₁} {r₂ : Registry ω₂} {w₂ : ω₂}
    {history : List Message} {m : Message} (h : SameTiming r₁ w₁ r₂ w₂ (history ++ [m]))
    (hc : r₁.channels = r₂.channels) :
    let d₁ := r₁.dispatch m (r₁.worldAfter w₁ history)
    let d₂ := r₂.dispatch m (r₂.worldAfter w₂ history)
    d₁.duration = d₂.duration ∧ d₁.cancels = d₂.cancels ∧ d₁.invocation = d₂.invocation ∧
      d₁.outcome.isUnrouted = d₂.outcome.isUnrouted := by
  have hsome : (r₁.handler? m.channel).isSome ↔ (r₂.handler? m.channel).isSome := by
    rw [← Registry.mem_channels, ← Registry.mem_channels, hc]
  have hrouted : ∀ (name : String) (v : Verdict),
      (⟨m.channel, v.fate name⟩ : Outcome).isUnrouted = false := by
    intro name v
    cases v <;> rfl
  unfold Registry.dispatch
  cases h₁ : r₁.handler? m.channel with
  | none =>
    have h₂ : r₂.handler? m.channel = none := by simpa [h₁] using hsome
    simp [h₂, Outcome.isUnrouted]
  | some a =>
    obtain ⟨b, h₂⟩ := Option.isSome_iff_exists.1 (hsome.1 (by simp [h₁]))
    simp only [h₂]
    cases hp : Text.decodeUtf8 m.payload with
    | error fault => simp [Outcome.isUnrouted]
    | ok payload =>
      obtain ⟨hd, hx⟩ := h history m (List.prefix_refl _) a b payload h₁ h₂ hp
      exact ⟨hd, hx, rfl, by rw [hrouted, hrouted]⟩

/-! ## Two runs in step -/

namespace Run

/-- Everything but the handlers' results and worlds is the same. -/
structure InStep (s₁ : Run σ ω₁) (s₂ : Run σ ω₂) : Prop where
  now : s₁.now = s₂.now
  source : s₁.source = s₂.source
  ending : s₁.ending = s₂.ending
  cancelled : s₁.cancelled = s₂.cancelled
  /-- The same messages were dispatched at the same times. -/
  passages : s₁.deliveries.map Delivery.passage = s₂.deliveries.map Delivery.passage
  flow : s₁.counters.flow = s₂.counters.flow
  readings : s₁.readings.map (fun x => (x.1, x.2.flow)) =
    s₂.readings.map fun x => (x.1, x.2.flow)

namespace InStep

variable {s₁ : Run σ ω₁} {s₂ : Run σ ω₂}

theorem start {r₁ : Registry ω₁} {r₂ : Registry ω₂} (pace : Pace) (source : σ) (w₁ : ω₁)
    (w₂ : ω₂) (c : Counters) :
    InStep (Run.start r₁ pace source w₁ c) (Run.start r₂ pace source w₂ c) :=
  ⟨rfl, rfl, rfl, rfl, rfl, rfl, rfl⟩

theorem messages (h : InStep s₁ s₂) : s₁.messages = s₂.messages := by
  have := congrArg (List.map Passage.message) h.passages
  simpa [Run.messages, List.map_map, Function.comp_def, Delivery.passage] using this

theorem isCancelledBy (h : InStep s₁ s₂) (cancelAt : Option Nat) (time : Nat) :
    s₁.isCancelledBy cancelAt time = s₂.isCancelledBy cancelAt time := by
  rw [Run.isCancelledBy, Run.isCancelledBy, h.cancelled]

theorem stop (h : InStep s₁ s₂) (cancelAt : Option Nat) :
    InStep (s₁.stop cancelAt) (s₂.stop cancelAt) := by
  refine ⟨?_, h.source, rfl, h.cancelled, h.passages, h.flow, h.readings⟩
  rw [now_stop, now_stop, h.cancelled, h.now]

theorem close (h : InStep s₁ s₂) : InStep s₁.close s₂.close :=
  ⟨h.now, h.source, rfl, h.cancelled, h.passages, h.flow, h.readings⟩

theorem noteFault (h : InStep s₁ s₂) (text : String) :
    InStep (s₁.noteFault text) (s₂.noteFault text) := by
  have hf := Counters.flow_recordTransportError h.flow
  refine ⟨h.now, h.source, h.ending, h.cancelled, h.passages, hf, ?_⟩
  simp [h.readings, h.now, hf]

theorem pause (h : InStep s₁ s₂) (pace : Pace) (cancelAt : Option Nat) :
    InStep (s₁.pause pace cancelAt) (s₂.pause pace cancelAt) := by
  have hx : s₁.isCancelledBy cancelAt (s₁.now + pace.idleDelay) =
      s₂.isCancelledBy cancelAt (s₂.now + pace.idleDelay) := by
    rw [h.isCancelledBy, h.now]
  by_cases hc : s₂.isCancelledBy cancelAt (s₂.now + pace.idleDelay)
  · rw [pause_of_cancelled _ _ _ (hx.trans hc), pause_of_cancelled _ _ _ hc]
    exact h.stop cancelAt
  · rw [pause_of_not_cancelled _ _ _ (hx ▸ hc), pause_of_not_cancelled _ _ _ hc]
    exact ⟨congrArg (· + pace.idleDelay) h.now, h.source, h.ending, h.cancelled, h.passages,
      h.flow, h.readings⟩

/-- The handlers are in the worlds that the same messages led to. -/
theorem deliver {r₁ : Registry ω₁} {w₁ : ω₁} {r₂ : Registry ω₂} {w₂ : ω₂} {c : Counters}
    (h : InStep s₁ s₂) {m : Message} (ht : SameTiming r₁ w₁ r₂ w₂ (s₁.messages ++ [m]))
    (hc : r₁.channels = r₂.channels) (hr₁ : s₁.Replays r₁ w₁ c) (hr₂ : s₂.Replays r₂ w₂ c) :
    InStep (s₁.deliver r₁ m) (s₂.deliver r₂ m) := by
  obtain ⟨hd, hx, hi, hu⟩ := ht.dispatch hc
  rw [← hr₁.world, h.messages, ← hr₂.world] at hd hx hi hu
  have hfinish : (s₁.delivery r₁ m).finish = (s₂.delivery r₂ m).finish := by
    simp [delivery, Delivery.finish, h.now, hd]
  have hf := Counters.flow_record h.flow hu
  refine ⟨hfinish, h.source, h.ending, ?_, ?_, hf, ?_⟩
  · simp [h.cancelled, hx]
  · simp [h.passages, Delivery.passage, delivery, h.now, hd, hi, hu]
  · simp [h.readings, hfinish, hf]

end InStep

variable [Source σ]

theorem InStep.waited {s₁ : Run σ ω₁} {s₂ : Run σ ω₂} (h : InStep s₁ s₂) (pace : Pace) :
    InStep (s₁.waited pace) (s₂.waited pace) := by
  have hgot : s₁.reception pace = s₂.reception pace := by
    rw [reception, reception, h.source, h.now]
  refine ⟨?_, ?_, h.ending, h.cancelled, h.passages, h.flow, h.readings⟩
  · simp [h.now, hgot]
  · simp [hgot]

/-- Which turn it is depends on the source, the time and the cancellation, and these are the
same. -/
theorem InStep.turn {r₁ : Registry ω₁} {w₁ : ω₁} {r₂ : Registry ω₂} {w₂ : ω₂} {c : Counters}
    {s₁ : Run σ ω₁} {s₂ : Run σ ω₂} (h : InStep s₁ s₂) (pace : Pace) (cancelAt : Option Nat)
    (hc : r₁.channels = r₂.channels)
    (ht : SameTiming r₁ w₁ r₂ w₂ (s₁.turn r₁ pace cancelAt).messages)
    (hr₁ : s₁.Replays r₁ w₁ c) (hr₂ : s₂.Replays r₂ w₂ c) :
    InStep (s₁.turn r₁ pace cancelAt) (s₂.turn r₂ pace cancelAt) := by
  cases hs : s₂.ending with
  | some e =>
    rwa [turn_of_ended _ _ _ (by simp [h.ending, hs]), turn_of_ended _ _ _ (by simp [hs])]
  | none =>
    have hs₁ : s₁.ending = none := h.ending.trans hs
    have hgot : s₁.reception pace = s₂.reception pace := by
      rw [reception, reception, h.source, h.now]
    have hx : s₁.isCancelledBy cancelAt (s₁.now + (s₁.reception pace).wait) =
        s₂.isCancelledBy cancelAt (s₂.now + (s₂.reception pace).wait) := by
      rw [h.isCancelledBy, h.now, hgot]
    have hw := h.waited pace
    have hw₁ : (s₁.waited pace).Replays r₁ w₁ c := hr₁.congr rfl rfl rfl rfl
    have hw₂ : (s₂.waited pace).Replays r₂ w₂ c := hr₂.congr rfl rfl rfl rfl
    by_cases hcan : s₂.isCancelledBy cancelAt (s₂.now + (s₂.reception pace).wait)
    · rw [turn_of_cancelled _ _ _ hs₁ (hx.trans hcan), turn_of_cancelled _ _ _ hs hcan]
      exact h.stop cancelAt
    · have hcan₁ := hx ▸ hcan
      cases ha : (s₂.reception pace).arrival with
      | message m =>
        have ha₁ : (s₁.reception pace).arrival = .message m := hgot ▸ ha
        rw [turn_of_message _ _ _ hs₁ hcan₁ ha₁] at ht ⊢
        rw [turn_of_message _ _ _ hs hcan ha]
        rw [messages_pause, messages_deliver] at ht
        exact (hw.deliver ht hc hw₁ hw₂).pause pace cancelAt
      | nothing =>
        rw [turn_of_nothing _ _ _ hs₁ hcan₁ (hgot ▸ ha), turn_of_nothing _ _ _ hs hcan ha]
        exact hw.pause pace cancelAt
      | fault text =>
        rw [turn_of_fault _ _ _ hs₁ hcan₁ (hgot ▸ ha), turn_of_fault _ _ _ hs hcan ha]
        exact (hw.noteFault text).pause pace cancelAt
      | closed =>
        rw [turn_of_closed _ _ _ hs₁ hcan₁ (hgot ▸ ha), turn_of_closed _ _ _ hs hcan ha]
        exact hw.close

/-- What handlers return is not seen by the loop: over any source, with any cancellation and
after any number of turns, two runs whose handlers agreed on time and cancellation are in
step. -/
theorem inStep_turns {r₁ : Registry ω₁} {w₁ : ω₁} {r₂ : Registry ω₂} {w₂ : ω₂}
    (hc : r₁.channels = r₂.channels) (pace : Pace) (source : σ) (c : Counters)
    (cancelAt : Option Nat) (n : Nat)
    (ht : SameTiming r₁ w₁ r₂ w₂
      ((Run.start r₁ pace source w₁ c).turns r₁ pace cancelAt n).messages) :
    InStep ((Run.start r₁ pace source w₁ c).turns r₁ pace cancelAt n)
      ((Run.start r₂ pace source w₂ c).turns r₂ pace cancelAt n) := by
  induction n with
  | zero => exact InStep.start pace source w₁ w₂ c
  | succ n ih =>
    rw [turns_succ_eq_turn] at ht ⊢
    rw [turns_succ_eq_turn]
    exact (ih (ht.mono (messages_prefix_turn r₁ pace cancelAt))).turn pace cancelAt hc ht
      (replays_turns r₁ pace cancelAt source w₁ c n) (replays_turns r₂ pace cancelAt source w₂ c n)

/-- A registry whose only handler takes three milliseconds and ends as it is told. -/
def endingWith (v : Verdict) : Registry Unit :=
  ({} : Registry Unit).register "refx:notify"
    ⟨"notify", fun _ world => { world, verdict := v, duration := 3 }⟩

theorem duration_endingWith {v : Verdict} {channel : String} {h : Handler Unit}
    (hh : (endingWith v).handler? channel = some h) (payload : String) (w : Unit) :
    (h.handle payload w).duration = 3 ∧ (h.handle payload w).cancels = false := by
  rw [endingWith, Registry.handler?_register] at hh
  split at hh
  · obtain rfl := Option.some.inj hh
    exact ⟨rfl, rfl⟩
  · simp [Registry.handler?] at hh

/-- One run delivers, the other panics, and nothing else tells them apart. -/
theorem inStep_ok_crash :
    let play : Playback := ⟨[(1, .message ⟨"refx:notify", "7|hello".toUTF8⟩), (0, .fault "reset")]⟩
    let ok := (Run.start (endingWith .ok) {} play () {}).turns (endingWith .ok) {} (some 40) 3
    let crash := (Run.start (endingWith (.crash none)) {} play () {}).turns
      (endingWith (.crash none)) {} (some 40) 3
    InStep ok crash ∧ ok.counters.delivered = 1 ∧ crash.counters.panicked = 1 := by
  intro play ok crash
  refine ⟨inStep_turns ?_ {} play {} (some 40) 3 ?_, ?_, ?_⟩
  · rfl
  · intro history m _ h₁ h₂ payload e₁ e₂ _
    obtain ⟨hd₁, hx₁⟩ := duration_endingWith e₁ payload ((endingWith .ok).worldAfter () history)
    obtain ⟨hd₂, hx₂⟩ := duration_endingWith e₂ payload
      ((endingWith (.crash none)).worldAfter () history)
    exact ⟨hd₁.trans hd₂.symm, hx₁.trans hx₂.symm⟩
  · decide +kernel
  · decide +kernel

end Run

end Coordination
