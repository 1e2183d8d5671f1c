import Coordination.Service.Watch
import Mathlib.Data.List.Induction

/-!
# Interleavings of the bus and the monitor

Moves of the bus, of the monitor, of the clock and of whoever cancels the token follow one another
in any order in which each can be made. An invariant of all these executions is one case per kind
of move (`Step`), carried along the moves by `run_induction`. Two of them are here: no more
messages have failed than were received (`Balanced`), and the clock is where the monitor's reports
say it is (`Timely`). Once the bus has ended, what the monitor still can do becomes less with every
move (`effort`).
-/

namespace Coordination

theorem Counters.failures_bump (c : Counters) (k : Counter) :
    (c.bump k).failures = c.failures + if k = .failed ∨ k = .panicked then 1 else 0 := by
  cases k <;> simp [bump, set, get, failures] <;> omega

theorem Counters.received_bump (c : Counters) (k : Counter) :
    (c.bump k).received = c.received + if k = .received then 1 else 0 := by
  cases k <;> rfl

namespace Watch

/-- Whether the move adds one to the counter. -/
def Move.counts (k : Counter) : Move → Bool
  | .receive _ => k = .received
  | .settle o => k = o.counter
  | .fault => k = .transportErrors
  | _ => false

/-! ## Moves and runs -/

/-- The moves that can be made, each with the watch after it. -/
inductive Step (w : Watch) : Move → Watch → Prop
  | receive (o : Outcome) (ended : w.ended = none) (pending : w.pending = none) :
    Step w (.receive o) { w with counters := w.counters.bump .received, pending := some o }
  | settle (o : Outcome) (pending : w.pending = some o) :
    Step w (.settle o) { w with counters := w.counters.bump o.counter, pending := none }
  | fault (ended : w.ended = none) (pending : w.pending = none) :
    Step w .fault { w with counters := w.counters.bump .transportErrors }
  | endBus (e : Ending) (ended : w.ended = none) (pending : w.pending = none)
    (reason : e = .sourceClosed ∨ w.cancelled.isSome) :
    Step w (.endBus e) { w with ended := some (w.now, e) }
  | cancel (cancelled : w.cancelled = none) : Step w .cancel { w with cancelled := some w.now }
  | load {last : Option Counters} {got : Counters} {k : Counter} {left : List Counter}
    (phase : w.phase = .loading last got (k :: left)) :
    Step w .load { w with phase := .loading last (got.set (w.counters.get k) k) left }
  | begin {got : Counters} (phase : w.phase = .loading none got []) :
    Step w .report { w with phase := .waiting got }
  | report {last got : Counters} (phase : w.phase = .loading (some last) got []) :
    Step w .report
      { w with phase := .waiting got, reports := w.reports ++ [(w.now, .between last got)] }
  | tick {last : Counters} (phase : w.phase = .waiting last) (due : w.due ≤ w.now) :
    Step w .tick
      { w with phase := .loading (some last) {} Counter.all, due := w.due + Monitor.interval }
  | leave {last : Counters} (phase : w.phase = .waiting last) (cancelled : w.cancelled.isSome) :
    Step w .leave { w with phase := .stopped }
  | pass (idle : w.isIdle) : Step w .pass { w with now := w.now + 1 }

theorem perform_eq_some_iff {w w' : Watch} {m : Move} : w.perform m = some w' ↔ Step w m w' := by
  constructor
  · intro h
    cases m with
    | receive o =>
      simp only [perform, Option.ite_none_right_eq_some, Bool.and_eq_true, Option.isNone_iff_eq_none,
        Option.some.injEq] at h
      obtain ⟨⟨he, hp⟩, rfl⟩ := h
      exact .receive o he hp
    | settle o =>
      simp only [perform, Option.ite_none_right_eq_some, Option.some.injEq] at h
      obtain ⟨hp, rfl⟩ := h
      exact .settle o hp
    | fault =>
      simp only [perform, Option.ite_none_right_eq_some, Bool.and_eq_true, Option.isNone_iff_eq_none,
        Option.some.injEq] at h
      obtain ⟨⟨he, hp⟩, rfl⟩ := h
      exact .fault he hp
    | endBus e =>
      simp only [perform, Option.ite_none_right_eq_some, Bool.and_eq_true, Bool.or_eq_true,
        decide_eq_true_eq, Option.isNone_iff_eq_none, Option.some.injEq] at h
      obtain ⟨⟨⟨he, hp⟩, hr⟩, rfl⟩ := h
      exact .endBus e he hp hr
    | cancel =>
      simp only [perform, Option.ite_none_right_eq_some, Option.isNone_iff_eq_none,
        Option.some.injEq] at h
      obtain ⟨hc, rfl⟩ := h
      exact .cancel hc
    | load =>
      simp only [perform] at h
      split at h
      · next hp => exact Option.some.inj h ▸ .load hp
      · cases h
    | report =>
      simp only [perform] at h
      split at h
      · next hp => exact Option.some.inj h ▸ .begin hp
      · next hp => exact Option.some.inj h ▸ .report hp
      · cases h
    | tick =>
      simp only [perform] at h
      split at h
      · next hp =>
        simp only [Option.ite_none_right_eq_some, Option.some.injEq] at h
        obtain ⟨hd, rfl⟩ := h
        exact .tick hp hd
      · cases h
    | leave =>
      simp only [perform] at h
      split at h
      · next hp =>
        simp only [Option.ite_none_right_eq_some, Option.some.injEq] at h
        obtain ⟨hc, rfl⟩ := h
        exact .leave hp hc
      · cases h
    | pass =>
      simp only [perform, Option.ite_none_right_eq_some, Option.some.injEq] at h
      obtain ⟨hi, rfl⟩ := h
      exact .pass hi
  · intro h
    cases h <;> simp_all [perform]

theorem run_append (w : Watch) (ms ms' : List Move) :
    w.run (ms ++ ms') = (w.run ms).bind (·.run ms') :=
  List.foldlM_append ..

theorem run_concat (w : Watch) (ms : List Move) (m : Move) :
    w.run (ms ++ [m]) = (w.run ms).bind (·.perform m) := by
  rw [run_append]
  simp [run]

theorem run_cons (w : Watch) (m : Move) (ms : List Move) :
    w.run (m :: ms) = (w.perform m).bind (·.run ms) := by
  simp [run]

/-- What holds at the start and is kept by every move holds after all moves. -/
theorem run_induction {w₀ : Watch} {P : List Move → Watch → Prop} (nil : P [] w₀)
    (concat : ∀ ms w m w', w₀.run ms = some w → P ms w → Step w m w' → P (ms ++ [m]) w')
    {ms : List Move} {w : Watch} (h : w₀.run ms = some w) : P ms w := by
  induction ms using List.reverseRecOn generalizing w with
  | nil =>
    obtain rfl := Option.some.inj h
    exact nil
  | append_singleton ms m ih =>
    rw [run_concat] at h
    obtain ⟨v, hv, hm⟩ := Option.bind_eq_some_iff.1 h
    exact concat ms v m w hv (ih hv) (perform_eq_some_iff.1 hm)

/-- Moves that can be made can be made up to any of them. -/
theorem run_take {w₀ w : Watch} {ms : List Move} (h : w₀.run ms = some w) (n : Nat) :
    ∃ x, w₀.run (ms.take n) = some x := by
  rw [← List.take_append_drop n ms, run_append] at h
  obtain ⟨x, hx, -⟩ := Option.bind_eq_some_iff.1 h
  exact ⟨x, hx⟩

/-! ## What is counted -/

/-- A counter tells how many moves have added to it. -/
theorem get_counters_run {w₀ w : Watch} {ms : List Move} (h : w₀.run ms = some w) (k : Counter) :
    w.counters.get k = w₀.counters.get k + ms.countP (Move.counts k) := by
  refine run_induction
    (P := fun ms w => w.counters.get k = w₀.counters.get k + ms.countP (Move.counts k)) rfl ?_ h
  intro ms w m w' _ ih hstep
  rw [List.countP_append, List.countP_singleton, ← Nat.add_assoc, ← ih]
  cases hstep <;> simp [Move.counts]

/-- A message is counted as received before it can be counted as failed. -/
def Balanced (w : Watch) : Prop :=
  w.counters.failures + w.pending.toList.length ≤ w.counters.received

theorem Balanced.step {w w' : Watch} {m : Move} (h : w.Balanced) (hstep : Step w m w') :
    w'.Balanced := by
  unfold Balanced at h ⊢
  cases hstep with
  | receive o hended hp => simpa [Counters.failures_bump, Counters.received_bump, hp] using h
  | settle o hp =>
    have hcounter : o.counter ≠ .received := by
      obtain ⟨_, fate⟩ := o
      cases fate <;> simp [Outcome.counter]
    simp only [hp, Option.toList_some, List.length_singleton] at h
    simp only [Counters.failures_bump, Counters.received_bump, if_neg hcounter, Option.toList_none,
      List.length_nil]
    split <;> omega
  | fault => simpa [Counters.failures_bump, Counters.received_bump] using h
  | endBus | cancel | load | begin | report | tick | leave | pass => exact h

theorem balanced_run {c : Counters} {w : Watch} {ms : List Move} (hc : c.failures ≤ c.received)
    (h : (start c).run ms = some w) : w.Balanced :=
  run_induction (P := fun _ w => w.Balanced) (show (start c).Balanced from hc)
    (fun _ _ _ _ _ ih hstep => ih.step hstep) h

/-- The bus ends between two messages. -/
theorem pending_of_ended_step {w w' : Watch} {m : Move} (h : w.ended.isSome → w.pending = none)
    (hstep : Step w m w') : w'.ended.isSome → w'.pending = none := by
  cases hstep with
  | receive o hended => simp [hended]
  | settle o hp => exact fun _ => rfl
  | endBus e _ hp => exact fun _ => hp
  | fault | cancel | load | begin | report | tick | leave | pass => exact h

theorem pending_of_ended_run {w₀ w : Watch} {ms : List Move}
    (h₀ : w₀.ended.isSome → w₀.pending = none) (h : w₀.run ms = some w) :
    w.ended.isSome → w.pending = none :=
  run_induction (P := fun _ w => w.ended.isSome → w.pending = none) h₀
    (fun _ _ _ _ _ ih hstep => pending_of_ended_step ih hstep) h

/-! ## The clock -/

/-- Until when the monitor looks on: the cancellation, or the present if there was none. -/
def watchedUntil (w : Watch) : Nat := w.cancelled.getD w.now

/-- What the monitor's phase says of the clock. -/
def OnTime (w : Watch) : Monitor.Phase → Prop
  | .loading none _ _ => w.now = 0 ∧ w.reports = [] ∧ w.due = Monitor.interval
  | .loading (some _) _ _ =>
    w.now = (w.reports.length + 1) * Monitor.interval ∧ w.due = w.now + Monitor.interval
  | .waiting _ => w.due = (w.reports.length + 1) * Monitor.interval
  | .stopped => w.cancelled.isSome

/-- Ticks are followed when they are due, the clock stands still from the cancellation until the
monitor has left, and from the end of the bus until the cancellation. -/
structure Timely (w : Watch) : Prop where
  onTime : w.OnTime w.phase
  reports_le : w.reports.length * Monitor.interval ≤ w.watchedUntil
  le_next : w.watchedUntil ≤ (w.reports.length + 1) * Monitor.interval
  times : w.reports.map Prod.fst =
    (List.range w.reports.length).map fun k => (k + 1) * Monitor.interval
  watched_le : w.watchedUntil ≤ w.now
  watched_of_running : w.phase ≠ .stopped → w.watchedUntil = w.now
  ended : ∀ t e, w.ended = some (t, e) → w.watchedUntil ≤ t ∧ t ≤ w.now

theorem watchedUntil_of_isNone {w : Watch} (h : w.cancelled = none) : w.watchedUntil = w.now := by
  rw [watchedUntil, h, Option.getD_none]

theorem timely_start (c : Counters) : (start c).Timely where
  onTime := ⟨rfl, rfl, rfl⟩
  reports_le := Nat.le_of_eq (Nat.zero_mul _)
  le_next := Nat.zero_le _
  times := rfl
  watched_le := Nat.le_refl _
  watched_of_running _ := rfl
  ended _ _ h := nomatch h

/-- The clock goes on if the monitor waits for a tick that is not due yet, or has stopped. -/
theorem isIdle_cases {w : Watch} (h : w.isIdle) :
    (∃ last, w.phase = .waiting last ∧ w.now < w.due ∧ w.cancelled = none ∧ w.ended = none) ∨
      w.phase = .stopped := by
  obtain ⟨phase, hp⟩ : ∃ phase, w.phase = phase := ⟨_, rfl⟩
  rw [isIdle, hp] at h
  cases phase with
  | loading last got left => simp at h
  | waiting last =>
    refine .inl ⟨last, hp, ?_⟩
    simp only [Bool.and_eq_true, decide_eq_true_eq, Option.isNone_iff_eq_none, Bool.or_eq_true] at h
    obtain ⟨⟨-, hended⟩, hdue, hc⟩ := h
    exact ⟨hdue, hc, hended.resolve_right (by simp [hc])⟩
  | stopped => exact .inr hp

namespace Timely

variable {w : Watch}

theorem pass (h : w.Timely) (hidle : w.isIdle) : Timely { w with now := w.now + 1 } := by
  obtain ⟨honTime, hle, hnext, htimes, hwle, hw, hended⟩ := h
  rcases isIdle_cases hidle with ⟨last, hp, hdue, hc, he⟩ | hp
  · rw [hp] at honTime
    rw [watchedUntil_of_isNone hc] at hle
    have hwatched : watchedUntil { w with now := w.now + 1 } = w.now + 1 :=
      watchedUntil_of_isNone hc
    refine ⟨?_, ?_, ?_, htimes, Nat.le_of_eq hwatched, fun _ => hwatched, by simp [he]⟩
    · simpa [OnTime, hp] using honTime
    · rw [hwatched]
      exact Nat.le_succ_of_le hle
    · rw [hwatched]
      exact honTime ▸ hdue
  · rw [hp] at honTime
    have hwatched : watchedUntil { w with now := w.now + 1 } = w.watchedUntil := by
      obtain ⟨t, hc⟩ := Option.isSome_iff_exists.1 honTime
      simp [watchedUntil, hc]
    refine ⟨?_, ?_, ?_, htimes, ?_, fun h => absurd hp h, ?_⟩
    · simpa [OnTime, hp] using honTime
    · rwa [hwatched]
    · rwa [hwatched]
    · rw [hwatched]
      exact Nat.le_succ_of_le hwle
    · intro t e he
      rw [hwatched]
      exact (hended t e he).imp_right Nat.le_succ_of_le

/-- The cancellation is now, which is until when the monitor looked on without it. -/
theorem cancel (h : w.Timely) (hc : w.cancelled = none) :
    Timely { w with cancelled := some w.now } := by
  obtain ⟨honTime, hle, hnext, htimes, -, -, hended⟩ := h
  have hnow := watchedUntil_of_isNone hc
  rw [hnow] at hle hnext
  refine ⟨?_, hle, hnext, htimes, Nat.le_refl _, fun _ => rfl, fun t e he => ?_⟩
  · cases hp : w.phase with
    | loading last got left => cases last <;> simpa [OnTime, hp] using honTime
    | waiting last => simpa [OnTime, hp] using honTime
    | stopped => rfl
  · have hend := hended t e he
    rw [hnow] at hend
    exact hend

/-- A report is one more, and its tick was the last that was due. -/
theorem report (h : w.Timely) {last got : Counters}
    (hp : w.phase = .loading (some last) got []) : Timely { w with
      phase := .waiting got, reports := w.reports ++ [(w.now, .between last got)] } := by
  obtain ⟨honTime, hle, hnext, htimes, hwle, hw, hended⟩ := h
  rw [hp] at honTime
  obtain ⟨hnow, hdue⟩ := honTime
  have hwatched : w.watchedUntil = w.now := hw (by simp [hp])
  refine ⟨?_, ?_, ?_, ?_, hwle, fun _ => hwatched, hended⟩
  · simp only [OnTime, List.length_append, List.length_singleton]
    rw [hdue, hnow, ← Nat.succ_mul]
  · rw [List.length_append, List.length_singleton, ← hnow]
    exact Nat.le_of_eq hwatched.symm
  · simp only [List.length_append, List.length_singleton]
    rw [Nat.succ_mul (w.reports.length + 1)]
    exact Nat.le_trans hnext (Nat.le_add_right _ _)
  · rw [List.map_append, htimes, List.length_append, List.length_singleton, List.range_succ,
      List.map_append, List.map_singleton, List.map_singleton, hnow]

/-- The clock does not go past a tick that is due. -/
theorem tick (h : w.Timely) {last : Counters} (hp : w.phase = .waiting last)
    (hd : w.due ≤ w.now) : Timely { w with
      phase := .loading (some last) {} Counter.all, due := w.due + Monitor.interval } := by
  obtain ⟨honTime, hle, hnext, htimes, hwle, hw, hended⟩ := h
  rw [hp] at honTime
  have hwatched : w.watchedUntil = w.now := hw (by simp [hp])
  have hnow : w.now = w.due := Nat.le_antisymm (by rwa [← hwatched, honTime]) hd
  refine ⟨?_, hle, hnext, htimes, hwle, fun _ => hwatched, hended⟩
  exact ⟨by rw [hnow, honTime], by rw [hnow]⟩

theorem step {w' : Watch} {m : Move} (h : w.Timely) (hstep : Step w m w') : w'.Timely := by
  have ⟨honTime, hle, hnext, htimes, hwle, hw, hended⟩ := h
  cases hstep with
  | receive | settle | fault => exact ⟨honTime, hle, hnext, htimes, hwle, hw, hended⟩
  | endBus e =>
    refine ⟨honTime, hle, hnext, htimes, hwle, hw, ?_⟩
    rintro t e' he'
    obtain ⟨rfl, rfl⟩ : w.now = t ∧ e = e' := by simpa using he'
    exact ⟨hwle, Nat.le_refl _⟩
  | cancel hc => exact h.cancel hc
  | @load last got k left hp =>
    rw [hp] at honTime
    refine ⟨?_, hle, hnext, htimes, hwle, fun _ => hw (by simp [hp]), hended⟩
    cases last <;> exact honTime
  | begin hp =>
    rw [hp] at honTime
    obtain ⟨-, hreports, hdue⟩ := honTime
    refine ⟨?_, hle, hnext, htimes, hwle, fun _ => hw (by simp [hp]), hended⟩
    simp [OnTime, hreports, hdue]
  | report hp => exact h.report hp
  | tick hp hd => exact h.tick hp hd
  | leave hp hc => exact ⟨hc, hle, hnext, htimes, hwle, fun h => absurd rfl h, hended⟩
  | pass hidle => exact h.pass hidle

end Timely

theorem timely_run {w₀ w : Watch} {ms : List Move} (h₀ : w₀.Timely) (h : w₀.run ms = some w) :
    w.Timely :=
  run_induction (P := fun _ w => w.Timely) h₀ (fun _ _ _ _ _ ih hstep => ih.step hstep) h

/-! ## The end -/

/-- How many ticks are due by now, if the next one is due at `due`. -/
def ticksDue (now due : Nat) : Nat := (now + Monitor.interval - due) / Monitor.interval

theorem ticksDue_of_le {now due : Nat} (h : due ≤ now) :
    ticksDue now due = ticksDue now (due + Monitor.interval) + 1 := by
  rw [ticksDue, ticksDue, Nat.sub_add_comm h, Nat.add_div_right _ (by decide),
    Nat.add_sub_add_right]

/-- How many moves the monitor can still make after the end of the bus. -/
def effort (w : Watch) : Nat :=
  (if w.cancelled.isNone then 1 else 0) +
    match w.phase with
    | .loading _ _ left => left.length + 2 + 8 * ticksDue w.now w.due
    | .waiting _ => 1 + 8 * ticksDue w.now w.due
    | .stopped => 0

/-- Once the bus has ended, every move brings the monitor closer to its own end. -/
theorem effort_lt_of_step {w w' : Watch} {m : Move} (he : w.ended.isSome)
    (hpending : w.pending = none) (hrunning : w.phase ≠ .stopped) (hstep : Step w m w') :
    w'.effort < w.effort := by
  cases hstep with
  | receive o hended | fault hended | endBus e hended => simp [hended] at he
  | settle o hp => simp [hpending] at hp
  | cancel hc => simp [effort, hc]
  | load hp | begin hp | report hp =>
    simp only [effort, hp, List.length_cons, List.length_nil]
    omega
  | tick hp hd =>
    simp only [effort, hp, ticksDue_of_le hd, Counter.all, List.length_cons, List.length_nil]
    omega
  | leave hp =>
    simp only [effort, hp]
    omega
  | pass hidle =>
    rcases isIdle_cases hidle with ⟨_, -, -, -, hnone⟩ | hp
    · simp [hnone] at he
    · exact absurd hp hrunning

/-- Once the bus has ended, the monitor can go on until it has stopped. -/
theorem exists_step_of_ended {w : Watch} (hrunning : w.phase ≠ .stopped) :
    ∃ m w', Step w m w' := by
  cases hc : w.cancelled with
  | none => exact ⟨_, _, .cancel hc⟩
  | some t =>
    cases hp : w.phase with
    | loading last got left =>
      cases left with
      | cons k left => exact ⟨_, _, .load hp⟩
      | nil =>
        cases last with
        | none => exact ⟨_, _, .begin hp⟩
        | some last => exact ⟨_, _, .report hp⟩
    | waiting last => exact ⟨_, _, .leave hp (by simp [hc])⟩
    | stopped => exact absurd hp hrunning

/-- A monitor that has stopped reports no more. -/
theorem stopped_of_step {w w' : Watch} {m : Move} (h : w.phase = .stopped) (hstep : Step w m w') :
    w'.phase = .stopped ∧ w'.reports = w.reports := by
  cases hstep with
  | load hp | begin hp | report hp | tick hp | leave hp => simp [hp] at h
  | receive | settle | fault | endBus | cancel | pass => exact ⟨h, rfl⟩

theorem ended_of_step {w w' : Watch} {m : Move} (h : w.ended.isSome) (hstep : Step w m w') :
    w'.ended = w.ended := by
  cases hstep with
  | endBus e hended => simp [hended] at h
  | receive | settle | fault | cancel | load | begin | report | tick | leave | pass => rfl

theorem ended_run {w w' : Watch} {ms : List Move} (he : w.ended.isSome) (h : w.run ms = some w') :
    w'.ended = w.ended := by
  refine run_induction (P := fun _ v => v.ended = w.ended) rfl ?_ h
  intro _ v _ _ _ ih hstep
  rw [ended_of_step (by rwa [ih]) hstep, ih]

/-- What the monitor has reported when it stops is all that it ever reports. -/
theorem stopped_run {w w' : Watch} {ms : List Move} (hs : w.phase = .stopped)
    (h : w.run ms = some w') : w'.phase = .stopped ∧ w'.reports = w.reports := by
  refine run_induction (P := fun _ v => v.phase = .stopped ∧ v.reports = w.reports) ⟨hs, rfl⟩ ?_ h
  intro _ v _ _ _ ih hstep
  obtain ⟨hphase, hreports⟩ := stopped_of_step ih.1 hstep
  exact ⟨hphase, hreports.trans ih.2⟩

/-- After the end of the bus no more moves fit in before the monitor has stopped. -/
theorem length_le_effort {w w' : Watch} {ms : List Move} (he : w.ended.isSome)
    (hpending : w.pending = none) (h : w.run ms = some w') (hrunning : w'.phase ≠ .stopped) :
    w'.effort + ms.length ≤ w.effort := by
  refine run_induction (P := fun ms v => v.phase ≠ .stopped → v.effort + ms.length ≤ w.effort)
    (fun _ => Nat.le_refl _) ?_ h hrunning
  intro ms v m v' hrun ih hstep hv'
  have hv : v.phase ≠ .stopped := fun hs => hv' (stopped_of_step hs hstep).1
  have hended : v.ended.isSome := by rwa [ended_run he hrun]
  have hlt := effort_lt_of_step hended
    (pending_of_ended_run (fun _ => hpending) hrun hended) hv hstep
  have := ih hv
  rw [List.length_append, List.length_singleton]
  omega

end Watch

end Coordination
