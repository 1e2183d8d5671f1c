import Coordination.Proofs.Bus.Arrivals

/-!
# When a message is dispatched

A message can be dispatched from its arrival on, and not before the pause after the dispatch before
it is over. Over the in-process transport it is dispatched within one pause of that instant, no
matter how often the loop has waited in vain before (`begins_in_time`). The loop is late by a pause
at most because it is never further than that past the arrival of the next message (`Ready`): a
wait that ends with nothing has ended before this arrival, and a pause is all that follows it.
-/

namespace Coordination

/-! ## Deliveries -/

namespace Run

variable {ω : Type} (r : Registry ω) (pace : Pace) (cancelAt : Option Nat)

/-- When a message that arrives at `arrival` can be dispatched after the deliveries `before`: once
it is there and the pause after the last of them is over. -/
def earliest (before : List Delivery) (arrival : Nat) : Nat :=
  match before.getLast? with
  | none => arrival
  | some d => max arrival (d.finish + pace.idleDelay)

/-- The deliveries are those of the first messages, and each begins at its earliest instant or up
to a pause later. Where no handler is invoked, it takes no time. -/
def InTime (as : List (Nat × Message)) (ds : List Delivery) : Prop :=
  ∀ (i : Nat) (d : Delivery), ds[i]? = some d →
    (d.invocation = none → d.duration = 0) ∧
    ∃ time, as[i]? = some (time, d.message) ∧
      earliest pace (ds.take i) time ≤ d.start ∧
      d.start ≤ earliest pace (ds.take i) time + pace.idleDelay

/-- Each delivery begins when the pause after the one before it is over. -/
def Separate (ds : List Delivery) : Prop :=
  ds.Pairwise fun d e => d.finish + pace.idleDelay ≤ e.start

theorem le_earliest (before : List Delivery) (arrival : Nat) :
    arrival ≤ earliest pace before arrival := by
  unfold earliest
  split
  · exact Nat.le_refl _
  · exact Nat.le_max_left _ _

variable {pace}

theorem earliest_le {before : List Delivery} {arrival t : Nat} (ht : arrival ≤ t)
    (hbefore : ∀ d ∈ before, d.finish + pace.idleDelay ≤ t) :
    earliest pace before arrival ≤ t := by
  unfold earliest
  split
  · exact ht
  · rename_i d hd
    exact Nat.max_le.2 ⟨ht, hbefore d (List.mem_of_getLast? hd)⟩

theorem InTime.concat {as : List (Nat × Message)} {ds : List Delivery} (h : InTime pace as ds)
    {d : Delivery} (hidle : d.invocation = none → d.duration = 0) {time : Nat}
    (has : as[ds.length]? = some (time, d.message))
    (hlow : earliest pace ds time ≤ d.start)
    (hhigh : d.start ≤ earliest pace ds time + pace.idleDelay) : InTime pace as (ds ++ [d]) := by
  intro i e he
  rcases Nat.lt_trichotomy i ds.length with hi | rfl | hi
  · rw [List.getElem?_append_left hi] at he
    rw [List.take_append_of_le_length hi.le]
    exact h i e he
  · rw [List.getElem?_concat_length] at he
    obtain rfl := Option.some.inj he
    rw [List.take_left]
    exact ⟨hidle, time, has, hlow, hhigh⟩
  · rw [List.getElem?_eq_none (by simpa using hi)] at he
    cases he

theorem duration_dispatch (m : Message) (w : ω) (h : (r.dispatch m w).invocation = none) :
    (r.dispatch m w).duration = 0 := by
  revert h
  unfold Registry.dispatch
  split
  · exact fun _ => rfl
  · split
    · exact fun _ => rfl
    · exact fun h => nomatch h

/-! ## One turn -/

/-- At `t` the run is ready for its next message: it has paused since the last, and it is not
further than a pause behind the message's earliest instant. -/
structure Ready (pace : Pace) (as : List (Nat × Message)) (s : Run Timeline ω) (t : Nat) :
    Prop where
  source : s.source.Awaits t (as.drop s.deliveries.length)
  rested : ∀ d ∈ s.deliveries, d.finish + pace.idleDelay ≤ t
  prompt : ∀ x, as[s.deliveries.length]? = some x →
    t ≤ earliest pace s.deliveries x.1 + pace.idleDelay

/-- What holds of a run at all times. It stops only if it is cancelled in time for the next
message, and the source is closed only after the last. -/
structure OnTime (pace : Pace) (cancelAt : Option Nat) (as : List (Nat × Message))
    (s : Run Timeline ω) : Prop where
  inTime : InTime pace as s.deliveries
  separate : Separate pace s.deliveries
  ready : s.ending = none → Ready pace as s s.now
  stopped : s.ending = some .stopped → s.cancelled ∨ ∃ c, cancelAt = some c ∧
    ∀ x, as[s.deliveries.length]? = some x →
      c ≤ earliest pace s.deliveries x.1 + pace.idleDelay
  closed : s.ending = some .sourceClosed → as.length ≤ s.deliveries.length

variable {as : List (Nat × Message)} {s : Run Timeline ω}

/-- A cancellation by an instant at which the next message is not late stops the run. -/
theorem onTime_stop (hinTime : InTime pace as s.deliveries) (hseparate : Separate pace s.deliveries)
    {t : Nat} (hprompt : ∀ x, as[s.deliveries.length]? = some x →
      t ≤ earliest pace s.deliveries x.1 + pace.idleDelay)
    (hcancelled : s.isCancelledBy cancelAt t) : (s.stop cancelAt).OnTime pace cancelAt as := by
  refine ⟨hinTime, hseparate, (nomatch ·), fun _ => ?_, (nomatch ·)⟩
  cases cancelAt with
  | none => exact .inl (by simpa using hcancelled)
  | some c =>
    rw [isCancelledBy_some, Bool.or_eq_true] at hcancelled
    refine hcancelled.imp id fun hc => ⟨c, rfl, fun x hx => ?_⟩
    exact (of_decide_eq_true hc).trans (hprompt x hx)

theorem onTime_pause (hinTime : InTime pace as s.deliveries) (hseparate : Separate pace s.deliveries)
    (hs : s.ending = none) (hready : Ready pace as s (s.now + pace.idleDelay)) :
    (s.pause pace cancelAt).OnTime pace cancelAt as := by
  by_cases h : s.isCancelledBy cancelAt (s.now + pace.idleDelay)
  · rw [pause_of_cancelled s pace cancelAt h]
    exact onTime_stop cancelAt hinTime hseparate hready.prompt h
  · rw [pause_of_not_cancelled s pace cancelAt h]
    refine ⟨hinTime, hseparate, fun _ => ⟨hready.source, hready.rested, hready.prompt⟩, ?_, ?_⟩
    · exact fun hstopped => nomatch hs.symm.trans hstopped
    · exact fun hclosed => nomatch hs.symm.trans hclosed

theorem Ready.answers (h : Ready pace as s s.now) : Timeline.Awaits.Answers s.now pace.pollTimeout
    (as.drop s.deliveries.length) (s.reception pace) :=
  h.source.recv pace.pollTimeout

/-- A message that is received is the next, and it has arrived when the wait is over. -/
theorem Ready.of_message (h : Ready pace as s s.now) {m : Message}
    (hm : (s.reception pace).arrival = .message m) :
    ∃ time, as[s.deliveries.length]? = some (time, m) ∧
      time ≤ s.now + (s.reception pace).wait ∧
      (s.reception pace).rest.Awaits (s.now + (s.reception pace).wait)
        (as.drop (s.deliveries.length + 1)) := by
  have hgot := h.answers
  rw [Timeline.Awaits.Answers, hm] at hgot
  obtain ⟨time, rest, has, hwait, hrest⟩ := hgot
  refine ⟨time, ?_, ?_, ?_⟩
  · rw [← List.head?_drop, has]
    rfl
  · rw [hwait]
    exact Nat.le_max_right _ _
  · rwa [← List.tail_drop, has, List.tail_cons]

/-- A wait that ends with nothing has ended before the next message arrives. -/
theorem Ready.of_nothing (h : Ready pace as s s.now)
    (hn : (s.reception pace).arrival = .nothing) :
    (1 ≤ pace.pollTimeout → 1 ≤ (s.reception pace).wait) ∧
      (∀ x, as[s.deliveries.length]? = some x → s.now + (s.reception pace).wait ≤ x.1) ∧
      (s.reception pace).rest.Awaits (s.now + (s.reception pace).wait)
        (as.drop s.deliveries.length) := by
  have hgot := h.answers
  rw [Timeline.Awaits.Answers, hn, List.head?_drop] at hgot
  exact hgot

theorem Ready.ne_fault (h : Ready pace as s s.now) (text : String) :
    (s.reception pace).arrival ≠ .fault text := by
  intro hf
  have hgot := h.answers
  rw [Timeline.Awaits.Answers, hf] at hgot
  exact hgot

/-- The next wait does not end later than a pause after the next message's earliest instant. -/
theorem Ready.le_wait (h : Ready pace as s s.now) {x : Nat × Message}
    (hx : as[s.deliveries.length]? = some x) :
    s.now + (s.reception pace).wait ≤ earliest pace s.deliveries x.1 + pace.idleDelay := by
  have hgot := h.answers
  have hlow := le_earliest pace s.deliveries x.1
  have hhigh := h.prompt x hx
  rw [← List.head?_drop] at hx
  unfold Timeline.Awaits.Answers at hgot
  split at hgot
  · obtain ⟨time, rest, has, hwait, -⟩ := hgot
    rw [has, List.head?_cons, Option.some_inj] at hx
    subst hx
    dsimp only at hlow hhigh ⊢
    omega
  · have := hgot.2.1 x hx
    omega
  · rw [hgot] at hx
    cases hx
  · exact hgot.elim

/-- With the message that was received, the deliveries are those of the first messages still. -/
theorem inTime_deliver (hinTime : InTime pace as s.deliveries) (h : Ready pace as s s.now)
    {m : Message} (hm : (s.reception pace).arrival = .message m) :
    InTime pace as ((s.waited pace).deliver r m).deliveries := by
  obtain ⟨time, hnext, hle, -⟩ := h.of_message hm
  refine hinTime.concat (duration_dispatch r m s.world) hnext ?_ (h.le_wait hnext)
  exact earliest_le hle fun d hd => (h.rested d hd).trans (Nat.le_add_right _ _)

theorem separate_deliver (hseparate : Separate pace s.deliveries) (h : Ready pace as s s.now)
    (m : Message) : Separate pace ((s.waited pace).deliver r m).deliveries := by
  refine List.pairwise_append.2 ⟨hseparate, List.pairwise_singleton _ _, fun d hd e he => ?_⟩
  rw [List.mem_singleton.1 he]
  exact (h.rested d hd).trans (Nat.le_add_right _ _)

/-- After the pause that follows a delivery, the run is ready for the message after it. -/
theorem Ready.deliver (h : Ready pace as s s.now) {m : Message}
    (hm : (s.reception pace).arrival = .message m) :
    Ready pace as ((s.waited pace).deliver r m)
      (((s.waited pace).deliver r m).now + pace.idleDelay) := by
  obtain ⟨_, -, -, hrest⟩ := h.of_message hm
  have hlast : ((s.waited pace).deliver r m).deliveries =
      s.deliveries ++ [(s.waited pace).delivery r m] := deliveries_deliver _ _ _
  have hfinish : s.now + (s.reception pace).wait ≤ ((s.waited pace).delivery r m).finish :=
    Nat.le_add_right _ _
  refine ⟨?_, ?_, fun x _ => ?_⟩
  · rw [hlast, List.length_append, List.length_singleton]
    exact hrest.later (hfinish.trans (Nat.le_add_right _ _))
  · intro d hd
    rw [hlast] at hd
    refine Nat.add_le_add_right ?_ _
    rcases List.mem_append.1 hd with hd | hd
    · exact (Nat.le_add_right _ _).trans
        ((h.rested d hd).trans ((Nat.le_add_right _ _).trans hfinish))
    · exact List.mem_singleton.1 hd ▸ Nat.le_refl _
  · refine le_trans ?_ (Nat.le_add_right _ _)
    rw [hlast, earliest, List.getLast?_concat]
    exact Nat.le_max_right _ _

/-- So it is after the pause that follows a wait for nothing. -/
theorem Ready.waited (h : Ready pace as s s.now) (hn : (s.reception pace).arrival = .nothing) :
    Ready pace as (s.waited pace) ((s.waited pace).now + pace.idleDelay) := by
  obtain ⟨-, hnext, hrest⟩ := h.of_nothing hn
  refine ⟨hrest.later (Nat.le_add_right _ _), fun d hd => ?_, fun x hx => ?_⟩
  · exact (h.rested d hd).trans ((Nat.le_add_right _ _).trans (Nat.le_add_right _ _))
  · exact Nat.add_le_add_right ((hnext x hx).trans (le_earliest _ _ _)) _

theorem OnTime.turn (h : s.OnTime pace cancelAt as) (hs : s.ending = none) :
    (s.turn r pace cancelAt).OnTime pace cancelAt as := by
  have hready := h.ready hs
  refine turn_cases r pace cancelAt hs ?_ ?_ ?_ ?_ ?_
  · exact onTime_stop cancelAt h.inTime h.separate fun x hx => hready.le_wait hx
  · intro m _ hm
    exact onTime_pause cancelAt (inTime_deliver r h.inTime hready hm)
      (separate_deliver r h.separate hready m) hs (hready.deliver r hm)
  · exact fun _ hn => onTime_pause cancelAt h.inTime h.separate hs (hready.waited hn)
  · exact fun text _ hf => absurd hf (hready.ne_fault text)
  · intro _ hc
    have hgot := hready.answers
    rw [Timeline.Awaits.Answers, hc] at hgot
    exact ⟨h.inTime, h.separate, (nomatch ·), (nomatch ·), fun _ => List.drop_eq_nil_iff.1 hgot⟩

/-! ## Many turns -/

theorem onTime_turns {script : Script} (hscript : script.Pairwise fun a b => a.1 ≤ b.1) (w : ω)
    (c : Counters) (n : Nat) :
    ((Run.start r pace (Timeline.ofScript script) w c).turns r pace cancelAt n).OnTime pace
      cancelAt script.published.arrivals := by
  refine turns_induction r pace cancelAt (P := fun t => t.OnTime pace cancelAt _) ?_ ?_ n
  · refine ⟨fun i d hd => ?_, List.Pairwise.nil, fun _ => ⟨?_, ?_, ?_⟩, (nomatch ·), (nomatch ·)⟩
    · simp [Run.start, say] at hd
    · exact Timeline.awaits_ofScript hscript
    · simp [Run.start, say]
    · exact fun _ _ => Nat.zero_le _
  · exact fun t h ht => h.turn r cancelAt ht

/-- What is left to be dispatched and to be waited for, if no message arrives after `horizon`. -/
def remaining (as : List (Nat × Message)) (horizon : Nat) (s : Run Timeline ω) : Nat :=
  (as.length - s.deliveries.length) + (horizon + 1 - s.now)

/-- A turn before the last message dispatches one or brings its arrival nearer, or ends the run. -/
theorem remaining_turn (hpoll : 1 ≤ pace.pollTimeout) {horizon : Nat}
    (hhorizon : ∀ x ∈ as, x.1 ≤ horizon) (h : Ready pace as s s.now) (hs : s.ending = none)
    (hleft : s.deliveries.length < as.length) :
    (s.turn r pace cancelAt).ending.isSome ∨
      remaining as horizon (s.turn r pace cancelAt) < remaining as horizon s := by
  refine turn_cases (P := fun t => t.ending.isSome ∨ remaining as horizon t <
    remaining as horizon s) r pace cancelAt hs ?_ ?_ ?_ ?_ ?_
  · exact fun _ => .inl rfl
  · intro m _ _
    have hnow := le_now_pause ((s.waited pace).deliver r m) pace cancelAt
    have hbegin : s.now ≤ ((s.waited pace).deliver r m).now :=
      (Nat.le_add_right _ _).trans (Nat.le_add_right _ _)
    refine .inr ?_
    rw [remaining, remaining, deliveries_pause, deliveries_deliver, List.length_append,
      List.length_singleton, deliveries_waited]
    omega
  · intro _ hn
    have hnow := le_now_pause (s.waited pace) pace cancelAt
    obtain ⟨hwait, hnext, -⟩ := h.of_nothing hn
    have hwait := hwait hpoll
    have hle := (hnext _ (List.getElem?_eq_getElem hleft)).trans
      (hhorizon _ (List.getElem_mem hleft))
    rw [now_waited] at hnow
    refine .inr ?_
    rw [remaining, remaining, deliveries_pause, deliveries_waited]
    omega
  · exact fun text _ hf => absurd hf (h.ne_fault text)
  · exact fun _ _ => .inl rfl

/-- A run that has ended was stopped or has dispatched all messages. -/
theorem OnTime.of_ended (h : s.OnTime pace cancelAt as) (hs : s.ending.isSome) :
    as.length ≤ s.deliveries.length ∨ s.ending = some .stopped := by
  cases he : s.ending with
  | none => rw [he] at hs; cases hs
  | some e =>
    cases e with
    | stopped => exact .inr rfl
    | sourceClosed => exact .inl (h.closed he)

/-- A run goes on until all messages are dispatched, unless it is stopped. -/
theorem OnTime.exists_turns (hpoll : 1 ≤ pace.pollTimeout) {horizon : Nat}
    (hhorizon : ∀ x ∈ as, x.1 ≤ horizon) (h : s.OnTime pace cancelAt as) :
    ∃ n, as.length ≤ (s.turns r pace cancelAt n).deliveries.length ∨
      (s.turns r pace cancelAt n).ending = some .stopped := by
  induction hk : remaining as horizon s using Nat.strongRecOn generalizing s with
  | ind k ih =>
    subst hk
    by_cases hleft : as.length ≤ s.deliveries.length
    · exact ⟨0, .inl hleft⟩
    · cases hs : s.ending with
      | some e => exact ⟨0, h.of_ended cancelAt (by simp [hs])⟩
      | none =>
        have hturn := h.turn r cancelAt hs
        rcases remaining_turn r cancelAt hpoll hhorizon (h.ready hs) hs (by omega) with hend | hlt
        · exact ⟨1, by rw [turns_succ, turns_zero]; exact hturn.of_ended cancelAt hend⟩
        · obtain ⟨n, hn⟩ := ih _ hlt hturn rfl
          exact ⟨n + 1, by rwa [turns_succ]⟩

theorem InTime.length_le {ds : List Delivery} (h : InTime pace as ds) :
    ds.length ≤ as.length := by
  by_contra hlt
  have hlt : as.length < ds.length := Nat.lt_of_not_le hlt
  obtain ⟨-, time, has, -⟩ := h as.length _ (List.getElem?_eq_getElem hlt)
  rw [List.getElem?_eq_none (Nat.le_refl _)] at has
  cases has

/-- Over the in-process transport the messages are dispatched in the order of their arrivals, one
after the other with a pause between them. Each dispatch begins at the earliest instant that its
arrival and the dispatch before it allow, or up to a pause later. In the end all are dispatched,
unless a handler cancels the run or it is cancelled from outside by the time at which the next
dispatch would have begun. -/
theorem begins_in_time (hpoll : 1 ≤ pace.pollTimeout) {script : Script}
    (hscript : script.Pairwise fun a b => a.1 ≤ b.1) (w : ω) (c : Counters) :
    let as := script.published.arrivals
    let run (n : Nat) :=
      (Run.start r pace (Timeline.ofScript script) w c).turns r pace cancelAt n
    (∀ n, InTime pace as (run n).deliveries ∧ Separate pace (run n).deliveries) ∧
    ∃ n, (run n).deliveries.length = as.length ∨
      ((run n).ending = some .stopped ∧ ((run n).cancelled ∨ ∃ c, cancelAt = some c ∧
        ∀ x, as[(run n).deliveries.length]? = some x →
          c ≤ earliest pace (run n).deliveries x.1 + pace.idleDelay)) := by
  intro as run
  have hrun : ∀ n, (run n).OnTime pace cancelAt as := onTime_turns r cancelAt hscript w c
  have hhorizon : ∀ x ∈ as, x.1 ≤ script.horizon := by
    intro x hx
    obtain ⟨item, hitem, htime⟩ := Script.exists_of_mem_arrivals hx
    exact htime ▸ Script.le_horizon (script.published_sublist.subset hitem)
  refine ⟨fun n => ⟨(hrun n).inTime, (hrun n).separate⟩, ?_⟩
  obtain ⟨n, hn⟩ := (hrun 0).exists_turns r cancelAt hpoll hhorizon
  refine ⟨n, hn.imp ?_ fun hstopped => ⟨hstopped, (hrun n).stopped hstopped⟩⟩
  exact fun hall => (hrun n).inTime.length_le.antisymm hall

/-- The first message arrives in the pause after a wait for nothing and is dispatched when the pause
is over. Its handler takes a fiftieth of a second, and the second message is dispatched at its
earliest instant, long after it arrived. -/
theorem begins_in_time_slow :
    let handler : Handler Unit := ⟨"slow", fun _ world => { world, duration := 20 }⟩
    let r := ({} : Registry Unit).register "refx:notify" handler
    let script : Script := [(1005, .publish ⟨"refx:notify", "1|a".toUTF8⟩),
      (1008, .publish ⟨"refx:notify", "1|b".toUTF8⟩)]
    let ds := ((Run.start r {} (Timeline.ofScript script) () {}).turns r {} none 3).deliveries
    (1 ≤ ({} : Pace).pollTimeout ∧ script.Pairwise fun a b => a.1 ≤ b.1) ∧
    InTime {} script.published.arrivals ds ∧ Separate {} ds ∧
    ds.map Delivery.start = [1010, 1040] := by
  intro handler r script ds
  have hpoll : 1 ≤ ({} : Pace).pollTimeout := by decide
  have hscript : script.Pairwise fun a b => a.1 ≤ b.1 := by decide
  obtain ⟨htimes, -⟩ := begins_in_time r none hpoll hscript () {}
  exact ⟨⟨hpoll, hscript⟩, (htimes 3).1, (htimes 3).2, by decide +kernel⟩

end Run

end Coordination
