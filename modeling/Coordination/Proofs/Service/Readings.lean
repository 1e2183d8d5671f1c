import Coordination.Proofs.Bus.Turn
import Coordination.Service.Run
import Mathlib.Data.List.TakeWhile

/-!
# Readings and ticks

A run tells of the monitor by its readings alone: what was counted at which time (`Recorded`). The
monitor's reports are on the readings at whole intervals (`Monitor.ticks`), and on no later ones.
-/

namespace Coordination

/-- The readings of a run that began with the counters `c`, with the counters as they are after the
last one, the time of that, and the outcomes that were counted. -/
inductive Recorded (c : Counters) : List (Nat × Counters) → Counters → Nat → List Outcome → Prop
  | start : Recorded c [(0, c)] c 0 []
  | message {readings : List (Nat × Counters)} {now : Counters} {t u : Nat} {os : List Outcome}
    (h : Recorded c readings now t os) (htu : t ≤ u) (o : Outcome) :
    Recorded c (readings ++ [(u, now.record o)]) (now.record o) u (os ++ [o])
  | fault {readings : List (Nat × Counters)} {now : Counters} {t u : Nat} {os : List Outcome}
    (h : Recorded c readings now t os) (htu : t ≤ u) :
    Recorded c (readings ++ [(u, now.recordTransportError)]) now.recordTransportError u os

theorem forall_le_concat {readings : List (Nat × Counters)} {t u : Nat}
    (h : ∀ reading ∈ readings, reading.1 ≤ t) (htu : t ≤ u) (now : Counters) :
    ∀ reading ∈ readings ++ [(u, now)], reading.1 ≤ u := by
  intro reading hreading
  rcases List.mem_append.1 hreading with hmem | hmem
  · exact Nat.le_trans (h reading hmem) htu
  · rw [List.mem_singleton.1 hmem]

theorem readingAt_of_le {readings : List (Nat × Counters)} {last : Nat × Counters} {t : Nat}
    (h : ∀ reading ∈ readings ++ [last], reading.1 ≤ t) :
    readingAt (readings ++ [last]) t = last.2 := by
  rw [readingAt, List.takeWhile_eq_self_iff.2 (by simpa using h), List.getLast?_concat]
  rfl

/-- A reading is no part of what was read before it. -/
theorem readingAt_concat_of_lt (readings : List (Nat × Counters)) {last : Nat × Counters} {t : Nat}
    (h : t < last.1) : readingAt (readings ++ [last]) t = readingAt readings t := by
  have hlast : [last].takeWhile (·.1 ≤ t) = [] := by simp [h]
  rw [readingAt, List.takeWhile_append, hlast, List.append_nil]
  split
  · next hall => rw [readingAt, (List.takeWhile_prefix _).eq_of_length hall]
  · rfl

namespace Recorded

variable {c now : Counters} {readings : List (Nat × Counters)} {t : Nat} {os : List Outcome}

theorem last (h : Recorded c readings now t os) :
    ∃ earlier, readings = earlier ++ [(t, now)] ∧ ∀ reading ∈ readings, reading.1 ≤ t := by
  induction h with
  | start => exact ⟨[], rfl, by simp⟩
  | message h htu o ih => exact ⟨_, rfl, forall_le_concat ih.choose_spec.2 htu _⟩
  | fault h htu ih => exact ⟨_, rfl, forall_le_concat ih.choose_spec.2 htu _⟩

/-- From the last reading on the counters stay as they are. -/
theorem readingAt_eq (h : Recorded c readings now t os) {u : Nat} (htu : t ≤ u) :
    readingAt readings u = now := by
  obtain ⟨earlier, rfl, hle⟩ := h.last
  exact readingAt_of_le fun reading hreading => Nat.le_trans (hle reading hreading) htu

end Recorded

/-- What a run has read are its counters after each of its outcomes and faults. -/
def Run.ReadsCounters {σ ω : Type} (c : Counters) (s : Run σ ω) : Prop :=
  ∃ t ≤ s.now, Recorded c s.readings s.counters t (s.deliveries.map Delivery.outcome)

/-- Every run reads its counters whenever they change. -/
theorem Run.readsCounters_turns {σ ω : Type} [Source σ] (r : Registry ω) (pace : Pace) (source : σ)
    (world : ω) (c : Counters) (cancelAt : Option Nat) (n : Nat) :
    ((Run.start r pace source world c).turns r pace cancelAt n).ReadsCounters c := by
  refine turns_induction r pace cancelAt (P := Run.ReadsCounters c) ⟨0, Nat.le_refl _, .start⟩ ?_ n
  rintro s ⟨t, ht, h⟩ hs
  refine turn_cases (P := Run.ReadsCounters c) r pace cancelAt hs ?_ ?_ ?_ ?_ ?_
  · exact fun _ => ⟨t, Nat.le_trans ht (le_now_stop s cancelAt), h⟩
  · intro m _ _
    have hfinish : t ≤ ((s.waited pace).delivery r m).finish := by
      simp only [delivery, Delivery.finish, now_waited]
      omega
    refine ⟨((s.waited pace).delivery r m).finish,
      le_now_pause ((s.waited pace).deliver r m) _ _, ?_⟩
    simp only [readings_pause, readings_deliver, readings_waited, counters_pause,
      counters_deliver, counters_waited, world_waited, deliveries_pause, deliveries_deliver,
      deliveries_waited, List.map_append, List.map_singleton]
    exact h.message hfinish _
  · intro _ _
    refine ⟨t, ?_, by simpa using h⟩
    exact Nat.le_trans (Nat.le_trans ht (Nat.le_add_right _ _)) (le_now_pause (s.waited pace) _ _)
  · intro text _ _
    refine ⟨s.now + (s.reception pace).wait,
      le_now_pause ((s.waited pace).noteFault text) _ _, ?_⟩
    simp only [readings_pause, readings_noteFault, readings_waited, counters_pause,
      counters_noteFault, counters_waited, now_waited, deliveries_pause, deliveries_noteFault,
      deliveries_waited]
    exact h.fault (Nat.le_trans ht (Nat.le_add_right _ _))
  · exact fun _ _ => ⟨t, Nat.le_trans ht (Nat.le_add_right _ _), h⟩

/-! ## Ticks -/

namespace Monitor

/-- When the first tick is due that is not followed before the time. -/
def nextTick (t : Nat) : Nat := ((t - 1) / interval + 1) * interval

theorem le_nextTick (t : Nat) : t ≤ nextTick t := by
  unfold nextTick interval
  omega

/-- A tick is followed before the time that it is a tick for. -/
theorem lt_of_mem_ticks {t u : Nat} (h : u ∈ ticks t) : u < t := by
  obtain ⟨k, hk, rfl⟩ := List.mem_map.1 h
  have hk := List.mem_range.1 hk
  unfold interval at hk ⊢
  omega

/-- A tick that is due is followed before the clock goes on. -/
theorem ticks_succ (t : Nat) :
    ticks (t + 1) = if t = nextTick t then ticks t ++ [t] else ticks t := by
  have hdiv : (t + 1 - 1) / interval = if t = nextTick t then (t - 1) / interval + 1
      else (t - 1) / interval := by
    unfold nextTick interval
    split <;> omega
  rw [ticks, hdiv]
  split
  · next hdue =>
    rw [List.range_succ, List.map_append, List.map_singleton, ← ticks]
    exact congrArg (ticks t ++ [·]) hdue.symm
  · rfl

theorem nextTick_succ (t : Nat) :
    nextTick (t + 1) = if t = nextTick t then nextTick t + interval else nextTick t := by
  unfold nextTick interval
  split <;> omega

/-- The last of the readings that are reported on, or the one that the monitor began with. -/
def lastReading (readings : List (Nat × Counters)) (first : Counters) (times : List Nat) :
    Counters :=
  (times.getLast?.map (readingAt readings)).getD first

theorem lastReading_concat (readings : List (Nat × Counters)) (first : Counters)
    (times : List Nat) (t : Nat) :
    lastReading readings first (times ++ [t]) = readingAt readings t := by
  rw [lastReading, List.getLast?_concat]
  rfl

theorem reports_concat (readings : List (Nat × Counters)) (first : Counters) (times : List Nat)
    (t : Nat) : reports readings first (times ++ [t]) = reports readings first times ++
      [(t, .between (lastReading readings first times) (readingAt readings t))] := by
  induction times generalizing first with
  | nil => rfl
  | cons u times ih =>
    have hlast : lastReading readings first (u :: times) =
        lastReading readings (readingAt readings u) times := by
      cases times with
      | nil => rfl
      | cons v times =>
        rw [lastReading, lastReading, List.getLast?_cons_cons]
        cases h : (v :: times).getLast? with
        | none => simp at h
        | some t => rfl
    rw [List.cons_append, reports, reports, ih, hlast]
    rfl

/-- Reports are on nothing but what was read at their times. -/
theorem reports_congr {readings readings' : List (Nat × Counters)} {times : List Nat}
    (first : Counters) (h : ∀ t ∈ times, readingAt readings t = readingAt readings' t) :
    reports readings first times = reports readings' first times := by
  induction times generalizing first with
  | nil => rfl
  | cons t times ih =>
    rw [reports, reports, h t List.mem_cons_self, ih _ fun u hu => h u (List.mem_cons_of_mem _ hu)]

theorem lastReading_congr {readings readings' : List (Nat × Counters)} {times : List Nat}
    (first : Counters) (h : ∀ t ∈ times, readingAt readings t = readingAt readings' t) :
    lastReading readings first times = lastReading readings' first times := by
  unfold lastReading
  cases ht : times.getLast? with
  | none => rfl
  | some t => rw [Option.map_some, Option.map_some, h t (List.mem_of_getLast? ht)]

theorem map_fst_reports (readings : List (Nat × Counters)) (first : Counters) (times : List Nat) :
    (reports readings first times).map Prod.fst = times := by
  induction times generalizing first with
  | nil => rfl
  | cons t times ih => rw [reports, List.map_cons, ih]

end Monitor

end Coordination
