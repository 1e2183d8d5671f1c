import Coordination.Proofs.Service.Snapshots
import Mathlib.Algebra.GroupWithZero.Nat

/-!
# What the monitor reports, when, and until when

In every execution the sums of what was reported are the differences between the last snapshot and
the first (`Accounts`), with a line per whole interval that elapses until the monitor is told to
stop (`Punctual`), and once the bus has ended, ten moves are more than the monitor has left
(`Halts`). The differences are computed on words of 64 bits, where neither they nor the sums in
them leave the range as long as the messages do not (`onWords?_snapshot`).
-/

namespace Coordination

/-! ## Words -/

namespace Word

/-- The sum of two words, unless it wraps around. -/
def add? (a b : UInt64) : Option UInt64 :=
  if a.toNat + b.toNat < UInt64.size then some (a + b) else none

/-- The difference of two words, unless it wraps around. -/
def sub? (a b : UInt64) : Option UInt64 := if b ≤ a then some (a - b) else none

theorem add?_ofNat {a b : Nat} (h : a + b < UInt64.size) :
    add? (.ofNat a) (.ofNat b) = some (.ofNat (a + b)) := by
  rw [add?, if_pos, UInt64.ofNat_add]
  rwa [UInt64.toNat_ofNat_of_lt' (by omega), UInt64.toNat_ofNat_of_lt' (by omega)]

theorem sub?_ofNat {a b : Nat} (ha : a < UInt64.size) (h : b ≤ a) :
    sub? (.ofNat a) (.ofNat b) = some (.ofNat (a - b)) := by
  rw [sub?, if_pos, UInt64.ofNat_sub h]
  rw [UInt64.le_iff_toNat_le, UInt64.toNat_ofNat_of_lt' ha, UInt64.toNat_ofNat_of_lt' (by omega)]
  exact h

end Word

/-- The failures as a sum of words. -/
def Counters.failuresOnWords? (c : Counters) : Option UInt64 :=
  Word.add? (.ofNat c.failed) (.ofNat c.panicked)

namespace Monitor.Health

/-- The messages and the failures between two readings, computed on words. -/
def onWords? (last now : Counters) : Option (UInt64 × UInt64) := do
  let received ← Word.sub? (.ofNat now.received) (.ofNat last.received)
  let failures ← Word.sub? (← now.failuresOnWords?) (← last.failuresOnWords?)
  return (received, failures)

/-- Without wrapping around, the words are the numbers of the report. -/
theorem onWords?_eq {last now : Counters} (hreceived : last.received ≤ now.received)
    (hfailures : last.failures ≤ now.failures) (hr : now.received < UInt64.size)
    (hf : now.failures < UInt64.size) : ∃ received failures,
      onWords? last now = some (received, failures) ∧
      received.toNat = (between last now).received ∧
      failures.toNat = (between last now).failures := by
  have hlast : last.failuresOnWords? = some (.ofNat last.failures) :=
    Word.add?_ofNat (Nat.lt_of_le_of_lt hfailures hf)
  have hnow : now.failuresOnWords? = some (.ofNat now.failures) := Word.add?_ofNat hf
  refine ⟨.ofNat (now.received - last.received), .ofNat (now.failures - last.failures), ?_, ?_, ?_⟩
  · simp [onWords?, hlast, hnow, Word.sub?_ofNat hr hreceived, Word.sub?_ofNat hf hfailures]
  · exact UInt64.toNat_ofNat_of_lt' (Nat.lt_of_le_of_lt (Nat.sub_le _ _) hr)
  · exact UInt64.toNat_ofNat_of_lt' (Nat.lt_of_le_of_lt (Nat.sub_le _ _) hf)

theorem exists_warn_iff (h : Health) : (∃ line ∈ h.log, line.level = .warn) ↔ 0 < h.failures := by
  unfold log
  split <;> simp_all

theorem countP_info_log (h : Health) : h.log.countP (·.level = .info) = 1 := by
  unfold log
  split <;> rfl

end Monitor.Health

namespace Watch

/-- What the monitor has logged. -/
def log (w : Watch) : List LogEntry :=
  w.reports.flatMap fun (time, health) => health.log.map fun line => ⟨time, line⟩

/-! ## What is reported -/

/-- The report with the number `i` is on the snapshots `i` and `i + 1`: it tells what was counted
between them, warns exactly if a handler failed or crashed in between, and with the reports before
it adds up to what was counted since the first snapshot. -/
structure Accounts (w₀ : Watch) (ms : List Move) (reports : List (Nat × Monitor.Health)) (i : Nat)
    (h : Monitor.Health) : Prop where
  loaded : ∀ k, ∃ x y, LoadedIn w₀ ms k i x ∧ LoadedIn w₀ ms k (i + 1) y ∧
    (w₀.snapshot ms i).get k = x.counters.get k ∧
    (w₀.snapshot ms (i + 1)).get k = y.counters.get k
  eq_between : h = .between (w₀.snapshot ms i) (w₀.snapshot ms (i + 1))
  received : h.received = (w₀.between ms .received i).countP (Move.counts .received)
  failures : h.failures = (w₀.between ms .failed i).countP (Move.counts .failed) +
    (w₀.between ms .panicked i).countP (Move.counts .panicked)
  warns : (∃ line ∈ h.log, line.level = .warn) ↔
    (∃ m ∈ w₀.between ms .failed i, m.counts .failed) ∨
      ∃ m ∈ w₀.between ms .panicked i, m.counts .panicked
  sum_received : (w₀.snapshot ms 0).received +
    ((reports.take (i + 1)).map (·.2.received)).sum = (w₀.snapshot ms (i + 1)).received
  sum_failures : (w₀.snapshot ms 0).failures +
    ((reports.take (i + 1)).map (·.2.failures)).sum = (w₀.snapshot ms (i + 1)).failures

/-- Differences add up to the difference between the last and the first. -/
theorem sum_take_eq {α : Type} (f : α → Nat) (g : Nat → Nat) (xs : List α)
    (h : ∀ i x, xs[i]? = some x → g i + f x = g (i + 1)) {n : Nat} (hn : n ≤ xs.length) :
    g 0 + ((xs.take n).map f).sum = g n := by
  induction n with
  | zero => rfl
  | succ n ih =>
    have hx := List.getElem?_eq_getElem hn
    rw [List.take_add_one, hx, List.map_append, List.sum_append, ← Nat.add_assoc,
      ih (Nat.le_of_succ_le hn), ← h n _ hx]
    simp

section

variable {c : Counters} {w : Watch} {ms : List Move}

theorem accounts_of_run (hrun : (start c).run ms = some w) {i t : Nat} {h : Monitor.Health}
    (hi : w.reports[i]? = some (t, h)) : Accounts (start c) ms w.reports i h := by
  obtain ⟨taken, hkeeps⟩ := exists_keeps hrun
  have hreceived : ∀ j t (h : Monitor.Health), w.reports[j]? = some (t, h) →
      h.received = ((start c).between ms .received j).countP (Move.counts .received) := by
    intro j t h hj
    obtain ⟨hlt, rfl⟩ := hkeeps.report hrun hj
    exact Nat.sub_eq_of_eq_add' (hkeeps.received_between hrun hlt)
  have hfailures : ∀ j t (h : Monitor.Health), w.reports[j]? = some (t, h) →
      h.failures = ((start c).between ms .failed j).countP (Move.counts .failed) +
        ((start c).between ms .panicked j).countP (Move.counts .panicked) := by
    intro j t h hj
    obtain ⟨hlt, rfl⟩ := hkeeps.report hrun hj
    exact Nat.sub_eq_of_eq_add' (hkeeps.failures_between hrun hlt)
  obtain ⟨hlt, heq⟩ := hkeeps.report hrun hi
  have hlength := (List.getElem?_eq_some_iff.1 hi).1
  refine ⟨fun k => ?_, heq, hreceived i t h hi, hfailures i t h hi, ?_, ?_, ?_⟩
  · obtain ⟨x, hx, hxget, -⟩ := hkeeps.loaded hrun (Nat.lt_of_succ_lt hlt) k
    obtain ⟨y, hy, hyget, -⟩ := hkeeps.loaded hrun hlt k
    exact ⟨x, y, hx, hy, hxget.symm, hyget.symm⟩
  · rw [h.exists_warn_iff, hfailures i t h hi, Nat.add_pos_iff_pos_or_pos, List.countP_pos_iff,
      List.countP_pos_iff]
  · refine sum_take_eq (·.2.received) (fun j => ((start c).snapshot ms j).received) _ ?_ hlength
    rintro j ⟨u, h'⟩ hj
    rw [hreceived j u h' hj]
    exact (hkeeps.received_between hrun (hkeeps.report hrun hj).1).symm
  · refine sum_take_eq (·.2.failures) (fun j => ((start c).snapshot ms j).failures) _ ?_ hlength
    rintro j ⟨u, h'⟩ hj
    rw [hfailures j u h' hj]
    exact (hkeeps.failures_between hrun (hkeeps.report hrun hj).1).symm

/-- Neither the sums nor the differences behind a report leave the range of the words. -/
theorem onWords?_snapshot (hc : c.failures ≤ c.received) (hrun : (start c).run ms = some w)
    (hsize : w.counters.received < UInt64.size) {i t : Nat} {h : Monitor.Health}
    (hi : w.reports[i]? = some (t, h)) : ∃ received failures,
      Monitor.Health.onWords? ((start c).snapshot ms i) ((start c).snapshot ms (i + 1)) =
        some (received, failures) ∧
      received.toNat = h.received ∧ failures.toNat = h.failures := by
  obtain ⟨taken, hkeeps⟩ := exists_keeps hrun
  obtain ⟨hlt, rfl⟩ := hkeeps.report hrun hi
  have hreceived : _ ≤ w.counters.received := hkeeps.get_snapshot_le hrun hlt .received
  have hfailures := hkeeps.failures_snapshot_le hrun hlt
  have hbalance : w.counters.failures ≤ w.counters.received :=
    Nat.le_trans (Nat.le_add_right _ _) (balanced_run hc hrun)
  refine Monitor.Health.onWords?_eq ?_ ?_ (Nat.lt_of_le_of_lt hreceived hsize) (by omega)
  · exact hkeeps.received_between hrun hlt ▸ Nat.le_add_right _ _
  · exact hkeeps.failures_between hrun hlt ▸ Nat.le_add_right _ _

end

/-! ## When -/

/-- A health line is logged for every whole interval that elapses until the monitor is told to stop,
which is no later than the end of the bus, and for no other; a tick that comes with the cancellation
may be followed or not. -/
structure Punctual (w : Watch) : Prop where
  lines : (w.log.filter (·.line.level = .info)).map LogEntry.time =
    (List.range w.reports.length).map fun k => (k + 1) * Monitor.interval
  reports_le : w.reports.length * Monitor.interval ≤ w.watchedUntil
  le_next : w.watchedUntil ≤ (w.reports.length + 1) * Monitor.interval
  ended : ∀ t e, w.ended = some (t, e) → w.watchedUntil ≤ t

/-- Every report has one health line. -/
theorem info_log (w : Watch) :
    (w.log.filter (·.line.level = .info)).map LogEntry.time = w.reports.map Prod.fst := by
  rw [log]
  induction w.reports with
  | nil => rfl
  | cons report rest ih =>
    obtain ⟨time, health⟩ := report
    rw [List.flatMap_cons, List.filter_append, List.map_append, ih]
    have hlines : (health.log.map fun line => (⟨time, line⟩ : LogEntry)).filter
        (·.line.level = .info) = (health.log.filter (·.level = .info)).map fun line => ⟨time, line⟩ :=
      List.filter_map
    obtain ⟨line, hline⟩ : ∃ line, health.log.filter (·.level = .info) = [line] :=
      List.length_eq_one_iff.1 (List.countP_eq_length_filter ▸ health.countP_info_log)
    rw [hlines, hline]
    rfl

theorem punctual_of_run {c : Counters} {w : Watch} {ms : List Move}
    (hrun : (start c).run ms = some w) : w.Punctual :=
  have htimely := timely_run (timely_start c) hrun
  { lines := (info_log w).trans htimely.times
    reports_le := htimely.reports_le
    le_next := htimely.le_next
    ended := fun t e he => (htimely.ended t e he).1 }

/-! ## Until when -/

/-- After ten moves at the latest the monitor has stopped, whichever they are, and until then there
is one to make. -/
def Halts (w : Watch) : Prop :=
  ∀ ms w', w.run ms = some w' →
    w'.phase = .stopped ∨ ms.length < 10 ∧ ∃ m, (w'.perform m).isSome

theorem effort_le {w₀ w : Watch} {ms : List Move} {taken : List Counters}
    (hkeeps : Keeps w₀ ms w taken) (ht : w.Timely) (hrunning : w.phase ≠ .stopped) :
    w.effort ≤ 10 := by
  have hcancel : (if w.cancelled.isNone then 1 else 0) ≤ 1 := by split <;> decide
  have hnow := ht.watched_of_running hrunning ▸ ht.le_next
  have honTime := ht.onTime
  have hholds := hkeeps.holds
  unfold effort
  cases hp : w.phase with
  | loading last got left =>
    rw [hp] at honTime hholds
    have hleft : left.length ≤ 6 := hholds.2.length_le
    have hdue : ticksDue w.now w.due = 0 := by
      cases last with
      | none => simp [honTime.1, honTime.2.2, ticksDue]
      | some last => simp [honTime.2, ticksDue]
    simp only [hdue]
    omega
  | waiting last =>
    rw [hp] at honTime
    have hdue : ticksDue w.now w.due ≤ 1 := by
      rw [ticksDue, honTime]
      exact Nat.div_le_of_le_mul (by omega)
    simp only
    omega
  | stopped => exact absurd hp hrunning

theorem effort_pos {w : Watch} (hrunning : w.phase ≠ .stopped) : 0 < w.effort := by
  unfold effort
  cases hp : w.phase with
  | loading | waiting =>
    simp only
    omega
  | stopped => exact absurd hp hrunning

theorem halts_of_run {c : Counters} {w : Watch} {ms : List Move} (hrun : (start c).run ms = some w)
    (he : w.ended.isSome) : w.Halts := by
  intro ms' w' hrun'
  refine or_iff_not_imp_left.2 fun hrunning' => ?_
  have hrunning : w.phase ≠ .stopped := fun hs => hrunning' (stopped_run hs hrun').1
  obtain ⟨taken, hkeeps⟩ := exists_keeps hrun
  have hle := effort_le hkeeps (timely_run (timely_start c) hrun) hrunning
  have hleft :=
    length_le_effort he (pending_of_ended_run (fun _ => rfl) hrun he) hrun' hrunning'
  have hpos := effort_pos hrunning'
  obtain ⟨m, v, hstep⟩ := exists_step_of_ended hrunning'
  exact ⟨by omega, m, Option.isSome_iff_exists.2 ⟨v, perform_eq_some_iff.2 hstep⟩⟩

end Watch

end Coordination
