import Coordination.Proofs.Service.Monitoring
import Coordination.Proofs.Service.Readings

/-!
# The monitor of a run

Beside every run there is an execution of bus and monitor in which the same is counted at the same
times (`Run.exists_monitored`). In it the monitor waits from one whole interval to the next
(`Watch.waiting`) until it is told to stop, and after that the bus goes on without it
(`Watch.left`). The induction is on what the run has recorded (`start_leads_abreast`).
-/

namespace Coordination

namespace Watch

/-- The outcome that the move counts under its kind. -/
def Move.outcome? : Move → Option Outcome
  | .settle o => some o
  | _ => none

/-- Moves that count the outcomes lead from one watch to the other. -/
def Leads (w : Watch) (os : List Outcome) (w' : Watch) : Prop :=
  ∃ ms, w.run ms = some w' ∧ ms.filterMap Move.outcome? = os

theorem Leads.trans {w w' w'' : Watch} {os os' : List Outcome} (h : w.Leads os w')
    (h' : w'.Leads os' w'') : w.Leads (os ++ os') w'' := by
  obtain ⟨ms, hms, rfl⟩ := h
  obtain ⟨ms', hms', rfl⟩ := h'
  exact ⟨ms ++ ms', by rw [run_append, hms]; exact hms', List.filterMap_append⟩

/-- Moves that count no outcome may follow. -/
theorem Leads.quietly {w w' w'' : Watch} {os : List Outcome} (h : w.Leads os w')
    (h' : w'.Leads [] w'') : w.Leads os w'' :=
  List.append_nil os ▸ h.trans h'

theorem leads_of_step {w w' : Watch} {m : Move} (h : Step w m w') :
    w.Leads m.outcome?.toList w' := by
  refine ⟨[m], by rw [run_cons, perform_eq_some_iff.2 h]; rfl, ?_⟩
  cases m <;> rfl

/-! ## Watches at rest -/

/-- The watch while the monitor waits and the bus has not ended. -/
def waiting (t : Nat) (counted last : Counters) (due : Nat)
    (reports : List (Nat × Monitor.Health)) : Watch where
  now := t
  counters := counted
  phase := .waiting last
  due := due
  reports := reports

/-- The watch when the monitor has left and the bus has not ended. -/
def left (t : Nat) (counted : Counters) (cancelled due : Nat)
    (reports : List (Nat × Monitor.Health)) : Watch where
  now := t
  counters := counted
  cancelled := some cancelled
  phase := .stopped
  due := due
  reports := reports

section Moves

variable (t : Nat) (counted last : Counters) (due cancelled : Nat)
  (reports : List (Nat × Monitor.Health))

theorem start_leads : (start counted).Leads [] (waiting 0 counted counted Monitor.interval []) :=
  ⟨List.replicate 6 .load ++ [.report], rfl, rfl⟩

/-- A message is counted under its kind as soon as it is counted as received. -/
theorem leads_record {w : Watch} (hended : w.ended = none) (hpending : w.pending = none)
    (o : Outcome) : w.Leads [o] { w with counters := w.counters.record o } := by
  have hsettle := leads_of_step (.settle (w := { w with
    counters := w.counters.bump .received, pending := some o }) o rfl)
  rw [← Counters.record_eq_bump, ← hpending] at hsettle
  exact (leads_of_step (.receive o hended hpending)).trans hsettle

/-- A tick is followed with a snapshot that nothing interrupts. -/
theorem waiting_report (h : due ≤ t) : (waiting t counted last due reports).Leads []
    (waiting t counted counted (due + Monitor.interval)
      (reports ++ [(t, .between last counted)])) := by
  refine ⟨.tick :: (List.replicate 6 .load ++ [.report]), ?_, rfl⟩
  rw [run_cons, perform_eq_some_iff.2 (.tick rfl h)]
  rfl

theorem waiting_pass (h : t < due) : (waiting t counted last due reports).Leads []
    (waiting (t + 1) counted last due reports) :=
  leads_of_step (.pass (by simp [isIdle, waiting, h]))

theorem waiting_left : (waiting t counted last due reports).Leads []
    (left t counted t due reports) :=
  (leads_of_step (.cancel rfl)).trans (leads_of_step (.leave rfl rfl))

theorem left_pass : (left t counted cancelled due reports).Leads []
    (left (t + 1) counted cancelled due reports) :=
  leads_of_step (.pass rfl)

theorem left_end (e : Ending) : (left t counted cancelled due reports).Leads []
    { left t counted cancelled due reports with ended := some (t, e) } :=
  leads_of_step (.endBus e rfl rfl (.inr rfl))

/-- A bus that is cancelled ends after the cancellation, and a bus whose source is closed is the
reason for it. -/
theorem waiting_end (e : Ending) : (waiting t counted last due reports).Leads []
    { left t counted t due reports with ended := some (t, e) } := by
  cases e with
  | stopped =>
    exact (waiting_left t counted last due reports).trans (left_end t counted due t reports _)
  | sourceClosed =>
    exact (leads_of_step (.endBus .sourceClosed rfl rfl (.inl rfl))).trans
      ((leads_of_step (.cancel rfl)).trans (leads_of_step (.leave rfl rfl)))

end Moves

/-! ## Beside the readings -/

section Readings

/-- The watch of a run whose token is cancelled at the time `cancelled`. Every tick that was due
before the time and before the cancellation was followed. -/
def abreast (c : Counters) (readings : List (Nat × Counters)) (counted : Counters)
    (cancelled t : Nat) : Watch :=
  if t ≤ cancelled then
    waiting t counted (Monitor.lastReading readings c (Monitor.ticks t)) (Monitor.nextTick t)
      (Monitor.reports readings c (Monitor.ticks t))
  else
    left t counted cancelled (Monitor.nextTick cancelled)
      (Monitor.reports readings c (Monitor.ticks cancelled))

variable {c counted : Counters} {readings : List (Nat × Counters)} {t u cancelled : Nat}
  {os : List Outcome}

theorem abreast_succ (h : Recorded c readings counted t os) (htu : t ≤ u) :
    (abreast c readings counted cancelled u).Leads []
      (abreast c readings counted cancelled (u + 1)) := by
  rw [abreast, abreast]
  rcases Nat.lt_trichotomy u cancelled with hu | rfl | hu
  · rw [if_pos (Nat.le_of_lt hu), if_pos (Nat.succ_le_of_lt hu), Monitor.ticks_succ,
      Monitor.nextTick_succ]
    by_cases hdue : u = Monitor.nextTick u
    · rw [if_pos hdue, if_pos hdue, Monitor.lastReading_concat, Monitor.reports_concat,
        h.readingAt_eq htu]
      refine (waiting_report _ _ _ _ _ (Nat.le_of_eq hdue.symm)).trans (waiting_pass _ _ _ _ _ ?_)
      exact hdue ▸ Nat.lt_add_of_pos_right (by decide)
    · rw [if_neg hdue, if_neg hdue]
      exact waiting_pass _ _ _ _ _ (Nat.lt_of_le_of_ne (Monitor.le_nextTick u) hdue)
  · rw [if_pos (Nat.le_refl u), if_neg (Nat.not_succ_le_self u)]
    exact (waiting_left _ _ _ _ _).trans (left_pass _ _ _ _ _)
  · rw [if_neg (Nat.not_le_of_lt hu), if_neg (Nat.not_le_of_lt (Nat.lt_succ_of_lt hu))]
    exact left_pass _ _ _ _ _

theorem abreast_le (h : Recorded c readings counted t os) (htu : t ≤ u) :
    (abreast c readings counted cancelled t).Leads [] (abreast c readings counted cancelled u) := by
  induction u, htu using Nat.le_induction with
  | base => exact ⟨[], rfl, rfl⟩
  | succ u htu ih => exact ih.quietly (abreast_succ h htu)

/-- What is counted from now on is no matter of the ticks before. -/
theorem abreast_concat (counted' : Counters) :
    abreast c (readings ++ [(t, counted')]) counted' cancelled t =
      { abreast c readings counted cancelled t with counters := counted' } := by
  have hreading : ∀ τ ∈ Monitor.ticks (min t cancelled),
      readingAt (readings ++ [(t, counted')]) τ = readingAt readings τ := fun τ hτ =>
    readingAt_concat_of_lt readings
      (Nat.lt_of_lt_of_le (Monitor.lt_of_mem_ticks hτ) (Nat.min_le_left _ _))
  unfold abreast
  split
  · next hle =>
    rw [Nat.min_eq_left hle] at hreading
    rw [Monitor.reports_congr c hreading, Monitor.lastReading_congr c hreading]
    rfl
  · next hlt =>
    rw [Nat.min_eq_right (Nat.le_of_not_le hlt)] at hreading
    rw [Monitor.reports_congr c hreading]
    rfl

theorem abreast_record (o : Outcome) : (abreast c readings counted cancelled t).Leads [o]
    (abreast c (readings ++ [(t, counted.record o)]) (counted.record o) cancelled t) := by
  rw [abreast_concat]
  unfold abreast
  split <;> exact leads_record rfl rfl o

theorem abreast_fault : (abreast c readings counted cancelled t).Leads []
    (abreast c (readings ++ [(t, counted.recordTransportError)]) counted.recordTransportError
      cancelled t) := by
  rw [abreast_concat, Counters.recordTransportError_eq_bump]
  unfold abreast
  split <;> exact leads_of_step (.fault rfl rfl)

/-- Whatever was recorded, the monitor can have looked on. -/
theorem start_leads_abreast (h : Recorded c readings counted t os) (htu : t ≤ u) :
    (start c).Leads os (abreast c readings counted cancelled u) := by
  refine Leads.quietly ?_ (abreast_le h htu)
  clear htu
  induction h with
  | start =>
    rw [abreast, if_pos (Nat.zero_le _)]
    exact start_leads c
  | message h htu o ih => exact (ih.quietly (abreast_le h htu)).trans (abreast_record o)
  | fault h htu ih => exact (ih.quietly (abreast_le h htu)).quietly abreast_fault

theorem counters_abreast : (abreast c readings counted cancelled t).counters = counted := by
  unfold abreast
  split <;> rfl

theorem reports_abreast (h : cancelled ≤ t) : (abreast c readings counted cancelled t).reports =
    Monitor.reports readings c (Monitor.ticks cancelled) := by
  unfold abreast
  split
  · next hle => rw [Nat.le_antisymm hle h]; rfl
  · rfl

theorem abreast_end (h : cancelled ≤ t) (e : Ending) :
    (abreast c readings counted cancelled t).Leads []
      { left t counted cancelled (Monitor.nextTick cancelled)
          (Monitor.reports readings c (Monitor.ticks cancelled)) with ended := some (t, e) } := by
  unfold abreast
  split
  · next hle =>
    obtain rfl := Nat.le_antisymm hle h
    exact waiting_end _ _ _ _ _ e
  · exact left_end _ _ _ _ _ e

end Readings

end Watch

/-! ## Beside a run -/

/-- An execution of bus and monitor beside the run `s`: the same outcomes are counted, the monitor
reports what is reported of the run, and when the run has ended, the monitor has stopped. -/
structure Run.Monitored {σ ω : Type} (s : Run σ ω) (c : Counters) (cancelAt : Option Nat)
    (ms : List Watch.Move) (w : Watch) : Prop where
  run : (Watch.start c).run ms = some w
  outcomes : ms.filterMap Watch.Move.outcome? = s.deliveries.map Delivery.outcome
  counters : w.counters = s.counters
  reports : w.reports =
    Monitor.reports s.readings c (Monitor.ticks (s.watchedUntil cancelAt))
  ended : ∀ e, s.ending = some e → w.phase = .stopped ∧ w.ended = some (s.now, e) ∧
    w.cancelled = some (s.watchedUntil cancelAt)

theorem Run.Monitored.log {σ ω : Type} {s : Run σ ω} {c : Counters} {cancelAt : Option Nat}
    {ms : List Watch.Move} {w : Watch} (h : s.Monitored c cancelAt ms w) :
    w.log = Monitor.log s.readings c (s.watchedUntil cancelAt) := by
  rw [Watch.log, h.reports, Monitor.log]

theorem Run.exists_monitored {σ ω : Type} {s : Run σ ω} {c : Counters} (h : s.ReadsCounters c)
    (cancelAt : Option Nat) : ∃ ms w, s.Monitored c cancelAt ms w := by
  obtain ⟨t, ht, hrecorded⟩ := h
  have hle : s.watchedUntil cancelAt ≤ s.now := Nat.min_le_left _ _
  have hleads : (Watch.start c).Leads (s.deliveries.map Delivery.outcome)
      (Watch.abreast c s.readings s.counters (s.watchedUntil cancelAt) s.now) :=
    Watch.start_leads_abreast hrecorded ht
  cases hs : s.ending with
  | none =>
    obtain ⟨ms, hms, houtcomes⟩ := hleads
    exact ⟨ms, _, hms, houtcomes, Watch.counters_abreast, Watch.reports_abreast hle, by simp [hs]⟩
  | some e =>
    obtain ⟨ms, hms, houtcomes⟩ := hleads.quietly (Watch.abreast_end hle e)
    refine ⟨ms, _, hms, houtcomes, rfl, rfl, fun e' he => ?_⟩
    obtain rfl := Option.some.inj (hs.symm.trans he)
    exact ⟨rfl, rfl, rfl⟩

end Coordination
