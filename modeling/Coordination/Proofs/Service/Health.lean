import Coordination.Proofs.Service.MonitoredRuns
import Coordination.Service.Run

/-!
# The health monitor's accounts

What holds of every interleaving of bus and monitor holds beside every run of a bus. The monitor
looks on until the run ends; only an invocation that is in progress when the token is cancelled from
outside goes on without it (`Run.WatchedToTheEnd`), for as long as it takes.
-/

namespace Coordination

section Until

variable {σ ω : Type} (cancelAt : Option Nat)

/-- The monitor looks on until the end of the run, except that a cancellation from outside reaches
it in the middle of the run's last invocation. -/
def Run.WatchedToTheEnd (s : Run σ ω) : Prop :=
  s.watchedUntil cancelAt = s.now ∨
    ∃ c d, cancelAt = some c ∧ s.watchedUntil cancelAt = c ∧ s.deliveries.getLast? = some d ∧
      d.start < c ∧ c < d.finish ∧ s.now = d.finish

variable {cancelAt}

/-- Besides, a run that goes on was not cancelled before now. -/
structure Run.InSight (cancelAt : Option Nat) (s : Run σ ω) : Prop where
  watched : s.WatchedToTheEnd cancelAt
  going : s.ending = none → ∀ c, cancelAt = some c → s.now ≤ c

theorem Run.inSight_of_le {s : Run σ ω} (h : ∀ c, cancelAt = some c → s.now ≤ c) :
    s.InSight cancelAt := by
  refine ⟨.inl (Nat.min_eq_left ?_), fun _ => h⟩
  cases cancelAt with
  | none => exact Nat.le_refl _
  | some c => exact h c rfl

theorem Run.now_stop_le {s : Run σ ω} (h : ∀ c, cancelAt = some c → s.now ≤ c) :
    ∀ c, cancelAt = some c → (s.stop cancelAt).now ≤ c := by
  rintro c rfl
  rw [now_stop]
  split
  · exact h c rfl
  · exact Nat.max_le.2 ⟨h c rfl, Nat.le_refl _⟩

theorem Run.lt_of_not_cancelled {s : Run σ ω} {t : Nat} (h : ¬ s.isCancelledBy cancelAt t) :
    ∀ c, cancelAt = some c → t < c := by
  rintro c rfl
  simp only [isCancelledBy_some, Bool.or_eq_true, decide_eq_true_eq, not_or, Nat.not_le] at h
  exact h.2

theorem Run.now_pause_le {s : Run σ ω} (pace : Pace) (h : ∀ c, cancelAt = some c → s.now ≤ c) :
    ∀ c, cancelAt = some c → (s.pause pace cancelAt).now ≤ c := by
  by_cases hcancelled : s.isCancelledBy cancelAt (s.now + pace.idleDelay)
  · rw [pause_of_cancelled _ _ _ hcancelled]
    exact now_stop_le h
  · rw [pause_of_not_cancelled _ _ _ hcancelled]
    exact fun c hc => Nat.le_of_lt (lt_of_not_cancelled hcancelled c hc)

/-- A cancellation in the middle of an invocation makes it the last, and ends the run with it. -/
theorem Run.inSight_pause {s : Run σ ω} (pace : Pace) {d : Delivery} {c : Nat}
    (hlast : s.deliveries.getLast? = some d) (hstart : d.start < c) (hc : c < s.now)
    (hnow : s.now = d.finish) : (s.pause pace (some c)).InSight (some c) := by
  have hcancelled : s.isCancelledBy (some c) (s.now + pace.idleDelay) := by
    simp only [isCancelledBy_some, Bool.or_eq_true, decide_eq_true_eq]
    exact .inr (by omega)
  have hend : (s.stop (some c)).now = s.now := by
    rw [now_stop, Option.getD_some, Nat.max_eq_left (Nat.le_of_lt hc), ite_self]
  rw [pause_of_cancelled _ _ _ hcancelled]
  refine ⟨.inr ⟨c, d, rfl, ?_, hlast, hstart, hnow ▸ hc, hend.trans hnow⟩, by simp⟩
  rw [watchedUntil, hend]
  exact Nat.min_eq_right (Nat.le_of_lt hc)

variable [Source σ] (r : Registry ω) (pace : Pace)

theorem Run.inSight_turn {s : Run σ ω} (h : s.InSight cancelAt) (hs : s.ending = none) :
    (s.turn r pace cancelAt).InSight cancelAt := by
  have hwaited (hc : ¬ s.isCancelledBy cancelAt (s.now + (s.reception pace).wait)) :
      ∀ c, cancelAt = some c → (s.waited pace).now ≤ c := fun c hcancelAt =>
    Nat.le_of_lt (lt_of_not_cancelled hc c hcancelAt)
  refine turn_cases (P := Run.InSight cancelAt) r pace cancelAt hs ?_ ?_ ?_ ?_ ?_
  · exact fun _ => inSight_of_le (now_stop_le (h.going hs))
  · intro m hc _
    by_cases hle : ∀ c, cancelAt = some c → ((s.waited pace).deliver r m).now ≤ c
    · exact inSight_of_le (now_pause_le pace hle)
    · obtain ⟨c, rfl, hlt⟩ : ∃ c, cancelAt = some c ∧ c < ((s.waited pace).deliver r m).now := by
        simpa using hle
      exact inSight_pause (s := (s.waited pace).deliver r m) (d := (s.waited pace).delivery r m)
        pace (by simp) (lt_of_not_cancelled hc c rfl) hlt rfl
  · exact fun hc _ => inSight_of_le (now_pause_le pace (hwaited hc))
  · exact fun text hc _ => inSight_of_le (now_pause_le pace (hwaited hc))
  · exact fun hc _ => inSight_of_le (hwaited hc)

theorem Run.watchedToTheEnd_turns (source : σ) (world : ω) (c₀ : Counters) (n : Nat) :
    ((Run.start r pace source world c₀).turns r pace cancelAt n).WatchedToTheEnd cancelAt :=
  (turns_induction r pace cancelAt (P := Run.InSight cancelAt)
    (inSight_of_le fun c _ => Nat.zero_le c) (fun _ h hs => inSight_turn r pace h hs) n).watched

end Until

/-! ## The accounts -/

/-- Nothing is reported where the cancellation comes before the first tick. -/
theorem Watch.log_eq_nil_of_cancelled {c : Counters} {w : Watch} {ms : List Watch.Move} {t : Nat}
    (hrun : (start c).run ms = some w) (hcancelled : w.cancelled = some t)
    (ht : t < Monitor.interval) : w.log = [] := by
  have hle := (punctual_of_run hrun).reports_le
  rw [watchedUntil, hcancelled, Option.getD_some] at hle
  have hnone : w.reports = [] := List.length_eq_zero_iff.1 <|
    Nat.eq_zero_of_not_pos fun hpos => by
      have := Nat.le_mul_of_pos_left Monitor.interval hpos
      omega
  rw [log, hnone, List.flatMap_nil]

/-- The health monitor in every interleaving with the bus, and beside every run of a bus, whatever
its handlers take: its differences never wrap around and add up to what was counted, it warns
exactly of the intervals with a failure, it logs one line per whole interval until it is told to
stop, which is at the end of the run or at the cancellation before it, and it always stops after
the bus. -/
theorem health_monitor_accounts (c : Counters) :
    (∀ (ms : List Watch.Move) (w : Watch), (Watch.start c).run ms = some w →
      (∀ i t h, w.reports[i]? = some (t, h) →
        Watch.Accounts (Watch.start c) ms w.reports i h ∧
        (c.failures ≤ c.received → w.counters.received < UInt64.size → ∃ received failures,
          Monitor.Health.onWords? ((Watch.start c).snapshot ms i)
            ((Watch.start c).snapshot ms (i + 1)) = some (received, failures) ∧
          received.toNat = h.received ∧ failures.toNat = h.failures)) ∧
      w.Punctual ∧ (w.ended.isSome → w.Halts) ∧
      (w.phase = .stopped → ∀ ms' w', w.run ms' = some w' →
        w'.phase = .stopped ∧ w'.log = w.log)) ∧
    (∀ {σ ω : Type} [Source σ] (r : Registry ω) (pace : Pace) (source : σ) (world : ω)
      (cancelAt : Option Nat) (n : Nat),
      let run := (Run.start r pace source world c).turns r pace cancelAt n
      run.WatchedToTheEnd cancelAt ∧ (∃ ms w, run.Monitored c cancelAt ms w) ∧
        ∀ ms w, run.Monitored c cancelAt ms w →
          (w.log.filter (·.line.level = .info)).map LogEntry.time =
            (List.range ((run.watchedUntil cancelAt - 1) / Monitor.interval)).map
              fun k => (k + 1) * Monitor.interval) ∧
    ∀ {σ : Type} [Source σ] (r : Registry World) (pace : Pace) (source : σ) (world : World)
      (cancelAt : Option Nat) (n : Nat),
      let run := (Run.start r pace source world c).turns r pace cancelAt n
      ∀ ms w, run.Monitored c cancelAt ms w →
        Service.log ⟨r, c⟩ cancelAt run = Service.startLine r ::
          (mergeLogs run.log w.log).map LogEntry.line ++
            Service.finalLine run.counters :: run.ending.toList.map Service.endingLine := by
  refine ⟨fun ms w hrun => ⟨fun i t h hi => ⟨Watch.accounts_of_run hrun hi, fun hc hsize =>
    Watch.onWords?_snapshot hc hrun hsize hi⟩, Watch.punctual_of_run hrun, Watch.halts_of_run hrun,
    fun hs ms' w' hrun' => ?_⟩, ?_, ?_⟩
  · obtain ⟨hphase, hreports⟩ := Watch.stopped_run hs hrun'
    exact ⟨hphase, by rw [Watch.log, hreports, ← Watch.log]⟩
  · intro σ ω _ r pace source world cancelAt n run
    refine ⟨Run.watchedToTheEnd_turns r pace source world c n,
      Run.exists_monitored (Run.readsCounters_turns r pace source world c cancelAt n) cancelAt,
      fun ms w hmonitored => ?_⟩
    rw [Watch.info_log, hmonitored.reports, Monitor.map_fst_reports, Monitor.ticks]
  · intro σ _ r pace source world cancelAt n run ms w hmonitored
    rw [Service.log, hmonitored.log]

/-- A message that cannot be read is counted and warned of in the interval in which it comes, and
the monitor stops with the source, half a minute after its only tick. -/
theorem health_monitor_accounts_unread :
    let s : Service := { pace := { pollTimeout := 100000 } }
    let source : Playback := ⟨[(5, .message ⟨"refx:notify", "7".toUTF8⟩),
      (90000, .message ⟨"refx:notify", "7".toUTF8⟩)]⟩
    let run := (Run.start s.bus.registry s.pace source ({} : World) {}).turns s.bus.registry s.pace
      none 3
    run.ending = some .sourceClosed ∧
    ∃ ms w, (Watch.start {}).run ms = some w ∧ w.reports = [(60000, ⟨1, 1, 0⟩)] ∧
      Watch.Accounts (Watch.start {}) ms w.reports 0 ⟨1, 1, 0⟩ ∧
      (∃ received failures, Monitor.Health.onWords? ((Watch.start {}).snapshot ms 0)
        ((Watch.start {}).snapshot ms 1) = some (received, failures) ∧
        received.toNat = 1 ∧ failures.toNat = 1) ∧
      w.Punctual ∧ w.Halts ∧
      (∀ ms' w', w.run ms' = some w' → w'.phase = .stopped ∧ w'.log = w.log) ∧
      (w.log.filter (·.line.level = .info)).map LogEntry.time = [60000] ∧
      Service.log s.bus none run = Service.startLine s.bus.registry ::
        (mergeLogs run.log w.log).map LogEntry.line ++
          [Service.finalLine run.counters, Service.endingLine .sourceClosed] := by
  intro s source run
  have hending : run.ending = some .sourceClosed := by decide +kernel
  refine ⟨hending, ?_⟩
  obtain ⟨hall, hbeside, hservice⟩ := health_monitor_accounts {}
  obtain ⟨-, ⟨ms, w, hmonitored⟩, hlines⟩ := hbeside s.bus.registry s.pace source {} none 3
  have hlog := hservice s.bus.registry s.pace source {} none 3 ms w hmonitored
  have hreports : w.reports = [(60000, ⟨1, 1, 0⟩)] := hmonitored.reports.trans (by decide +kernel)
  have hcounters : w.counters = ⟨2, 0, 0, 2, 0, 0⟩ := hmonitored.counters.trans (by decide +kernel)
  obtain ⟨hstopped, hended, -⟩ := hmonitored.ended _ hending
  obtain ⟨haccounts, hpunctual, hhalts, hafter⟩ := hall ms w hmonitored.run
  obtain ⟨hreport, hwords⟩ := haccounts 0 60000 ⟨1, 1, 0⟩ (by rw [hreports]; rfl)
  refine ⟨ms, w, hmonitored.run, hreports, hreport,
    hwords (by decide) (by rw [hcounters]; decide), hpunctual, hhalts (by rw [hended]; rfl),
    hafter hstopped, (hlines ms w hmonitored).trans (by decide +kernel), hlog.trans ?_⟩
  rw [show run.ending = some .sourceClosed from hending]
  rfl

/-- A cancellation from outside does not wait for the invocation in progress, and the monitor does
not wait for it either: here the run goes on for more than two whole intervals and nothing is logged
of any, in whatever order bus and monitor move. -/
theorem health_lines_stop_at_cancellation :
    let slow : Handler World := ⟨"announce", fun _ world => { world, duration := 130000 }⟩
    let bus : Bus World := { registry := .ofList [("refx:announce", slow)] }
    let run := bus.runScript {} [(100, .publish ⟨"refx:announce", "7".toUTF8⟩), (1000, .cancel)] {}
    run.ending = some .stopped ∧ 2 * Monitor.interval < run.now ∧
    (∃ ms w, run.Monitored {} (some 1000) ms w ∧ w.cancelled = some 1000) ∧
    (∀ ms w, (Watch.start {}).run ms = some w → w.cancelled = some 1000 → w.log = []) ∧
    Service.log bus (some 1000) run = Service.startLine bus.registry ::
      run.log.map LogEntry.line ++ [Service.finalLine run.counters, Service.endingLine .stopped] := by
  intro slow bus run
  have hending : run.ending = some .stopped := by decide +kernel
  have huntil : run.watchedUntil (some 1000) = 1000 := by decide +kernel
  have hreads : run.ReadsCounters bus.counters := Run.readsCounters_turns ..
  obtain ⟨ms, w, hmonitored⟩ := Run.exists_monitored hreads (some 1000)
  have hcancelled : w.cancelled = some 1000 := huntil ▸ (hmonitored.ended _ hending).2.2
  refine ⟨hending, by decide +kernel, ⟨ms, w, hmonitored, hcancelled⟩,
    fun ms w hrun hc => Watch.log_eq_nil_of_cancelled hrun hc (by decide), ?_⟩
  have hquiet : w.log = [] := Watch.log_eq_nil_of_cancelled hmonitored.run hcancelled (by decide)
  rw [Service.log, ← hmonitored.log, hquiet, mergeLogs_nil, hending]
  rfl

end Coordination
