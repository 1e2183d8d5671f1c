import Coordination.Proofs.Bus.Timeline

/-!
# How a source is polled

Polling is transparent: to which bound the loop waits, how often it waits in vain and which
errors of the transport it meets changes neither the messages that it dispatches nor their
outcomes nor its end (`polling_is_transparent`).

A bounded wait may use up a part only of what is to be waited for. So the number of answers up
to the close is bounded by items and milliseconds together: for a playback by its items and the
milliseconds that they are away (`Playback.closesWithin`), for a timeline by its steps and the
milliseconds to the last of them (`Timeline.closesWithin`). Each answer takes one of them away.
-/

namespace Coordination

variable {σ ω : Type}

/-! ## Arrivals up to the close -/

namespace Arrival

/-- Nothing for a handler: the time was up, or receiving went wrong. -/
def isIdle : Arrival → Bool
  | .nothing | .fault _ => true
  | .message _ | .closed => false

end Arrival

/-- Arrivals in their order, each with the milliseconds that it takes. -/
abbrev Arrivals := List (Nat × Arrival)

namespace Arrivals

/-- What arrives before the source is closed for the first time. -/
def untilClosed (items : Arrivals) : List Arrival :=
  (items.map Prod.snd).takeWhile (· ≠ .closed)

theorem untilClosed_cons (wait : Nat) {arrival : Arrival} (h : arrival ≠ .closed)
    (items : Arrivals) : untilClosed ((wait, arrival) :: items) = arrival :: items.untilClosed :=
  List.takeWhile_cons_of_pos (decide_eq_true h)

def messages (items : Arrivals) : List Message := items.untilClosed.flatMap Arrival.messages

def faults (items : Arrivals) : Nat := items.untilClosed.countP Arrival.isFault

/-- What arrives apart from time that is up and errors of the transport. -/
def essential (items : Arrivals) : List Arrival :=
  (items.map Prod.snd).filter fun arrival => !arrival.isIdle

/-- The messages are found among what is essential. -/
theorem messages_eq (items : Arrivals) :
    items.messages = (items.essential.takeWhile (· ≠ .closed)).flatMap Arrival.messages := by
  unfold messages untilClosed essential
  induction items.map Prod.snd with
  | nil => rfl
  | cons a as ih => cases a <;> simp_all [Arrival.isIdle, Arrival.messages]

/-- Time that is up and errors may stand anywhere before the close. -/
theorem messages_eq_of_essential {items items' : Arrivals}
    (h : items.essential = items'.essential) : items.messages = items'.messages := by
  rw [messages_eq, messages_eq, h]

/-- An arrival leaves the ones after it to come, unless it is the close. -/
theorem answers_cons {P : Nat → σ → List Message → Nat → Prop} {time wait after : Nat}
    {arrival : Arrival} {rest : σ} {items : Arrivals}
    (h : P (time + wait) rest items.messages items.faults) :
    Source.Answers P time ⟨wait, arrival, rest⟩ (messages ((after, arrival) :: items))
      (faults ((after, arrival) :: items)) := by
  cases arrival with
  | message m => exact ⟨items.messages, rfl, h⟩
  | nothing => exact h
  | fault text =>
    refine ⟨items.faults, ?_, h⟩
    exact List.countP_cons_of_pos rfl
  | closed => exact ⟨rfl, rfl⟩

end Arrivals

/-! ## Sources that play arrivals -/

/-- A source that answers every request with the next of its arrivals, however short the bound
is. After the last one it is closed. -/
structure Replies where
  items : Arrivals

namespace Replies

def recv (p : Replies) : Reception Replies :=
  match p.items with
  | [] => ⟨0, .closed, p⟩
  | (wait, arrival) :: rest => ⟨wait, arrival, ⟨rest⟩⟩

instance : Source Replies := ⟨fun p _ _ => p.recv⟩

/-- The first close among the replies is the end, and otherwise the answer after the last. -/
theorem closesWithin (limit now : Nat) (items : Arrivals) :
    Source.ClosesWithin limit (items.untilClosed.length + 1) now (⟨items⟩ : Replies)
      items.messages items.faults := by
  induction items generalizing now with
  | nil => exact fun _ _ => ⟨rfl, rfl⟩
  | cons item items ih =>
    obtain ⟨wait, arrival⟩ := item
    by_cases ha : arrival = .closed
    · subst ha
      exact fun _ _ => ⟨rfl, rfl⟩
    · rw [Arrivals.untilClosed_cons wait ha]
      exact fun time _ => Arrivals.answers_cons (ih (time + wait))

end Replies

namespace Playback

/-- The milliseconds that the last arrival is away. -/
def delay (p : Playback) : Nat := (p.items.map Prod.fst).sum

theorem recv_cons (after limit : Nat) (arrival : Arrival) (items : Arrivals) :
    recv ⟨(after, arrival) :: items⟩ limit =
      if limit ≤ after then ⟨limit, .nothing, ⟨(after - limit, arrival) :: items⟩⟩
      else ⟨after, arrival, ⟨items⟩⟩ := rfl

theorem turnBudget_none (items : Arrivals) :
    turnBudget ⟨items⟩ none = delay ⟨items⟩ + items.length + 2 := by
  have key : ∀ (items : Arrivals) (k : Nat),
      items.foldl (fun n item => n + item.1) k = k + (items.map Prod.fst).sum := by
    intro items
    induction items with
    | nil => exact fun _ => rfl
    | cons item items ih =>
      intro k
      rw [List.foldl_cons, ih, List.map_cons, List.sum_cons, Nat.add_assoc]
  rw [turnBudget, key, Nat.zero_add]
  rfl

/-- A wait that is too short brings the next arrival nearer, and any other takes it. -/
theorem closesWithin {limit : Nat} (hlimit : 1 ≤ limit) {n : Nat} (now : Nat) (items : Arrivals)
    (hn : delay ⟨items⟩ + items.length < n) :
    Source.ClosesWithin limit n now (⟨items⟩ : Playback) items.messages items.faults := by
  induction n generalizing now items with
  | zero => omega
  | succ n ih =>
    intro time _
    show Source.Answers _ time (recv ⟨items⟩ limit) _ _
    cases items with
    | nil => exact ⟨rfl, rfl⟩
    | cons item items =>
      obtain ⟨after, arrival⟩ := item
      have hn : after + delay ⟨items⟩ + (items.length + 1) < n + 1 := by
        simpa [delay] using hn
      by_cases h : limit ≤ after
      · rw [recv_cons, if_pos h]
        refine ih (time + limit) ((after - limit, arrival) :: items) ?_
        have : delay ⟨(after - limit, arrival) :: items⟩ = after - limit + delay ⟨items⟩ := by
          simp [delay]
        rw [this, List.length_cons]
        omega
      · rw [recv_cons, if_neg h]
        exact Arrivals.answers_cons (ih (time + after) items (by omega))

end Playback

/-! ## Runs -/

/-- Runs the bus over replies, for at most `n` turns. -/
def Bus.runReplies (bus : Bus ω) (pace : Pace) (items : Arrivals) (world : ω) (n : Nat) :
    Run Replies ω :=
  (Run.start bus.registry pace ⟨items⟩ world bus.counters).turns bus.registry pace none n

namespace Run

/-- The runs ended in the same way and did the same to the same messages. -/
structure SameResult {τ : Type} (s : Run σ ω) (t : Run τ ω) : Prop where
  ending : s.ending = t.ending
  messages : s.messages = t.messages
  outcomes : s.outcomes = t.outcomes
  world : s.world = t.world

theorem Completes.sameResult {τ : Type} {r : Registry ω} {w : ω} {c c' : Counters}
    {ms : List Message} {n k : Nat} {s : Run σ ω} {t : Run τ ω} (hs : s.Completes r w c ms n)
    (ht : t.Completes r w c' ms k) : s.SameResult t where
  ending := hs.ending.trans ht.ending.symm
  messages := hs.messages.trans ht.messages.symm
  outcomes := hs.outcomes.trans ht.outcomes.symm
  world := hs.world.trans ht.world.symm

/-- No run over replies ends before they are closed. -/
theorem open_of_untilClosed (r : Registry ω) (pace : Pace) {items : Arrivals}
    {s : Run Replies ω} (hsource : s.source = ⟨items⟩) (hs : s.ending = none)
    (hx : s.cancelled = false) (hquiet : r.Quiet s.world items.messages) {n : Nat}
    (hn : n ≤ items.untilClosed.length) : (s.turns r pace none n).ending = none := by
  induction n generalizing items s with
  | zero => exact hs
  | succ n ih =>
    cases items with
    | nil => simp [Arrivals.untilClosed] at hn
    | cons item items =>
      obtain ⟨wait, arrival⟩ := item
      have hgot : s.reception pace = ⟨wait, arrival, ⟨items⟩⟩ := by
        rw [reception, hsource]
        rfl
      have hopen : arrival ≠ .closed := by
        rintro rfl
        simp [Arrivals.untilClosed] at hn
      rw [Arrivals.untilClosed_cons wait hopen, List.length_cons] at hn
      rw [Arrivals.messages, Arrivals.untilClosed_cons wait hopen, List.flatMap_cons] at hquiet
      have hstep := goesOn_turn r pace hs hx (hgot ▸ hquiet.left) (hgot ▸ hopen)
      rw [hgot] at hstep
      rw [turns_succ]
      refine ih hstep.source hstep.ending hstep.cancelled ?_ (Nat.le_of_succ_le_succ hn)
      rw [hstep.world]
      exact hquiet.right

theorem completes_replies (bus : Bus ω) (pace : Pace) {w : ω} {items : Arrivals}
    (hquiet : bus.registry.Quiet w items.messages) {n : Nat}
    (hn : items.untilClosed.length < n) :
    (bus.runReplies pace items w n).Completes bus.registry w bus.counters items.messages
      items.faults := by
  have h := completes_of_closing bus.registry pace (c := bus.counters)
    (Replies.closesWithin pace.pollTimeout 0 items) hquiet
  rw [Bus.runReplies, turns_eq_of_le bus.registry pace none hn (by rw [h.ending]; rfl)]
  exact h

theorem completes_playback (bus : Bus ω) {pace : Pace} (hpace : 1 ≤ pace.pollTimeout) {w : ω}
    {items : Arrivals} (hquiet : bus.registry.Quiet w items.messages) :
    (bus.runPlayback pace ⟨items⟩ none w).Completes bus.registry w bus.counters items.messages
      items.faults := by
  refine completes_of_closing bus.registry pace ?_ hquiet
  refine Playback.closesWithin hpace 0 items ?_
  rw [Playback.turnBudget_none]
  omega

/-- Polling is transparent. A run over replies ends at the first close and not before. Up to
there it dispatches the messages, each once and in order, and counts the errors, and so does a
run over a playback or a pipe if the bound on a wait is at least a millisecond. Neither time that
is up nor an error nor the pace changes what a run does. -/
theorem polling_is_transparent (bus : Bus ω) (w : ω) (items : Arrivals)
    (hquiet : bus.registry.Quiet w items.messages) :
    (∀ pace n, n ≤ items.untilClosed.length → (bus.runReplies pace items w n).ending = none) ∧
    (∀ pace n, items.untilClosed.length < n →
      (bus.runReplies pace items w n).Completes bus.registry w bus.counters items.messages
        items.faults) ∧
    (∀ pace, 1 ≤ pace.pollTimeout →
      (bus.runPlayback pace ⟨items⟩ none w).Completes bus.registry w bus.counters items.messages
        items.faults) ∧
    (∀ pace script, 1 ≤ pace.pollTimeout → script.Closes → script.cancelTime? = none →
      script.published.messages = items.messages →
      (bus.runScript pace script w).Completes bus.registry w bus.counters items.messages 0) ∧
    (∀ pace pace' items', items'.essential = items.essential →
      (∀ n n', items.untilClosed.length < n → items'.untilClosed.length < n' →
        (bus.runReplies pace items w n).SameResult (bus.runReplies pace' items' w n')) ∧
      (1 ≤ pace.pollTimeout → 1 ≤ pace'.pollTimeout →
        (bus.runPlayback pace ⟨items⟩ none w).SameResult
          (bus.runPlayback pace' ⟨items'⟩ none w))) := by
  refine ⟨?_, ?_, ?_, ?_, ?_⟩
  · intro pace n hn
    exact open_of_untilClosed bus.registry pace rfl rfl rfl hquiet hn
  · exact fun pace n hn => completes_replies bus pace hquiet hn
  · exact fun pace hpace => completes_playback bus hpace hquiet
  · intro pace script hpace hclose hcancel hms
    rw [← hms] at hquiet ⊢
    exact completes_script bus pace (Or.inl hpace) hclose hcancel hquiet
  · intro pace pace' items' hitems
    have hms : items'.messages = items.messages := Arrivals.messages_eq_of_essential hitems
    have hquiet' : bus.registry.Quiet w items'.messages := hms ▸ hquiet
    refine ⟨?_, ?_⟩
    · intro n n' hn hn'
      exact (completes_replies bus pace hquiet hn).sameResult
        (hms ▸ completes_replies bus pace' hquiet' hn')
    · intro hpace hpace'
      exact (completes_playback bus hpace hquiet).sameResult
        (hms ▸ completes_playback bus hpace' hquiet')

/-- A bus whose only handler notes what it is given. -/
def noting : Bus (List String) where
  registry := ({} : Registry (List String)).register "refx:notify"
    ⟨"note", fun text world => { world := world ++ [text], duration := 1 }⟩

/-- Two messages before the close are noted and the one after it is not, with interruptions and
without, at two paces, and when they are published into a pipe. -/
theorem polling_is_transparent_noting :
    let message (text : String) : Message := ⟨"refx:notify", text.toUTF8⟩
    let items : Arrivals := [(0, .message (message "1|a")), (0, .fault "reset"), (5, .nothing),
      (30, .message (message "1|b")), (0, .closed), (0, .message (message "1|c"))]
    let plain : Arrivals := [(0, .message (message "1|a")), (0, .message (message "1|b")),
      (0, .closed), (0, .message (message "1|c"))]
    let script : Script := [(2, .publish (message "1|a")), (9, .publish (message "1|b")),
      (9, .close)]
    (noting.runReplies {} items [] 4).ending = none ∧
    (noting.runReplies {} items [] 5).Completes noting.registry [] {} items.messages 1 ∧
    (noting.runPlayback ⟨1, 0⟩ ⟨items⟩ none []).SameResult
      (noting.runPlayback {} ⟨plain⟩ none []) ∧
    (noting.runScript ⟨1, 0⟩ script []).world = ["1|a", "1|b"] := by
  intro message items plain script
  have hquiet : noting.registry.Quiet [] items.messages := by
    unfold Registry.Quiet
    decide +kernel
  obtain ⟨hopen, hreplies, _, hscript, hsame⟩ := polling_is_transparent noting [] items hquiet
  have hpipe := hscript ⟨1, 0⟩ script (by decide) ⟨(9, .close), by simp [script], rfl⟩
    (by decide +kernel) (by decide +kernel)
  refine ⟨hopen {} 4 (by decide +kernel), hreplies {} 5 (by decide +kernel), ?_, ?_⟩
  · exact (hsame ⟨1, 0⟩ {} plain (by decide +kernel)).2 (by decide) (by decide)
  · rw [hpipe.world]
    decide +kernel

end Run

end Coordination
