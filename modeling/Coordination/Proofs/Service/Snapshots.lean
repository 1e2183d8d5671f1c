import Coordination.Proofs.Service.Interleaving
import Mathlib.Data.List.GetD

/-!
# The snapshots behind the reports

The counters of a snapshot are loaded one after the other, and the bus may count between two loads.
Each counter is therefore told by the moves that were made before it was loaded itself (`loads`),
and what is reported of it by those between two of its loads (`between`). The invariant is that
what was reported are the snapshots that were taken, each compared with the one before (`Keeps`).
-/

namespace Coordination

theorem Counters.ext_get {c c' : Counters} (h : ∀ k, c.get k = c'.get k) : c = c' := by
  cases c
  cases c'
  simp only [Counters.mk.injEq]
  exact ⟨h .received, h .delivered, h .unrouted, h .failed, h .panicked, h .transportErrors⟩

theorem Counter.mem_all (k : Counter) : k ∈ Counter.all := by cases k <;> decide

/-- Loading one counter after the other makes a snapshot of them all. -/
theorem Counters.get_foldl_set (f : Counter → Nat) (k : Counter) :
    (Counter.all.foldl (fun got j => got.set (f j) j) ({} : Counters)).get k = f k := by
  cases k <;> rfl

namespace Watch

/-- The watch after the first `n` of the moves. -/
def after (w : Watch) (ms : List Move) (n : Nat) : Watch := (w.run (ms.take n)).getD w

/-- The counter that the monitor loads next, if it is taking a snapshot. -/
def next? (w : Watch) : Option Counter :=
  match w.phase with
  | .loading _ _ left => left.head?
  | _ => none

/-- When the monitor loads the counter, each time told by the number of moves made before. -/
def loads (w : Watch) (ms : List Move) (k : Counter) : List Nat :=
  (List.range ms.length).filter fun n => ms[n]? = some .load && (w.after ms n).next? = some k

/-- The number of moves before the counter is loaded for the snapshot with the number `i`. -/
def loadedAt (w : Watch) (ms : List Move) (k : Counter) (i : Nat) : Nat :=
  (w.loads ms k).getD i ms.length

/-- The snapshot with the number `i`: every counter as it is when it is loaded. -/
def snapshot (w : Watch) (ms : List Move) (i : Nat) : Counters :=
  Counter.all.foldl
    (fun got k => got.set ((w.after ms (w.loadedAt ms k i)).counters.get k) k) ({} : Counters)

/-- The moves between the loads of the counter for the snapshot `i` and for the one after it. -/
def between (w : Watch) (ms : List Move) (k : Counter) (i : Nat) : List Move :=
  (ms.take (w.loadedAt ms k (i + 1))).drop (w.loadedAt ms k i)

theorem get_snapshot (w : Watch) (ms : List Move) (i : Nat) (k : Counter) :
    (w.snapshot ms i).get k = (w.after ms (w.loadedAt ms k i)).counters.get k :=
  Counters.get_foldl_set _ k

theorem after_of_run {w₀ w : Watch} {ms : List Move} {n : Nat} (h : w₀.run (ms.take n) = some w) :
    w₀.after ms n = w := by
  rw [after, h, Option.getD_some]

theorem after_append {w : Watch} {ms : List Move} (ms' : List Move) {n : Nat} (h : n ≤ ms.length) :
    w.after (ms ++ ms') n = w.after ms n := by
  rw [after, List.take_append_of_le_length h, ← after]

theorem after_length {w₀ w : Watch} {ms : List Move} (h : w₀.run ms = some w) (ms' : List Move) :
    w₀.after (ms ++ ms') ms.length = w := by
  rw [after_append _ (Nat.le_refl _)]
  exact after_of_run (by rwa [List.take_length])

theorem mem_loads {w : Watch} {ms : List Move} {k : Counter} {n : Nat} :
    n ∈ w.loads ms k ↔ ms[n]? = some .load ∧ (w.after ms n).next? = some k := by
  rw [loads, List.mem_filter, List.mem_range, Bool.and_eq_true, decide_eq_true_eq,
    decide_eq_true_eq]
  exact and_iff_right_of_imp fun h => (List.getElem?_eq_some_iff.1 h.1).1

/-- A further move is a further load of the counter, or none. -/
theorem loads_concat {w₀ w : Watch} {ms : List Move} (h : w₀.run ms = some w) (m : Move)
    (k : Counter) : w₀.loads (ms ++ [m]) k =
      w₀.loads ms k ++ if m = .load ∧ w.next? = some k then [ms.length] else [] := by
  rw [loads, List.length_append, List.length_singleton, List.range_succ, List.filter_append]
  refine congrArg₂ (· ++ ·) (List.filter_congr fun n hn => ?_) ?_
  · have hn := List.mem_range.1 hn
    rw [List.getElem?_append_left hn, after_append _ (Nat.le_of_lt hn)]
  · simp [List.filter_cons, after_length h]

/-- After the moves that were made before it is loaded for the snapshot `i`, the watch `x` is
about to load the counter. -/
structure LoadedIn (w : Watch) (ms : List Move) (k : Counter) (i : Nat) (x : Watch) : Prop where
  run : w.run (ms.take (w.loadedAt ms k i)) = some x
  move : ms[w.loadedAt ms k i]? = some .load
  next : x.next? = some k
  now : x.now = i * Monitor.interval

/-- The counters that were loaded for the snapshot that is being taken. -/
def begun (w : Watch) (k : Counter) : List Nat :=
  match w.phase with
  | .loading _ got left => if k ∈ left then [] else [got.get k]
  | _ => []

/-- Whether the monitor has the last of the snapshots at hand, if it still needs it. -/
def Holds (taken : List Counters) : Monitor.Phase → Prop
  | .loading last _ left => last = taken.getLast? ∧ left <:+ Counter.all
  | .waiting last => taken.getLast? = some last
  | .stopped => taken ≠ []

/-- What was reported are the snapshots that were taken, each compared with the one before. -/
structure Keeps (w₀ : Watch) (ms : List Move) (w : Watch) (taken : List Counters) : Prop where
  holds : Holds taken w.phase
  values : ∀ k, (w₀.loads ms k).map (fun n => (w₀.after ms n).counters.get k) =
    taken.map (·.get k) ++ w.begun k
  times : ∀ k, (w₀.loads ms k).map (fun n => (w₀.after ms n).now) =
    (List.range (w₀.loads ms k).length).map (· * Monitor.interval)
  reports : w.reports.map Prod.snd = List.zipWith Monitor.Health.between taken taken.tail

/-- What is read of the watch at every load of a counter, after a further move. -/
theorem map_loads_concat {α : Type} (f : Watch → α) {w₀ w : Watch} {ms : List Move}
    (h : w₀.run ms = some w) (m : Move) (k : Counter) :
    (w₀.loads (ms ++ [m]) k).map (fun n => f (w₀.after (ms ++ [m]) n)) =
      (w₀.loads ms k).map (fun n => f (w₀.after ms n)) ++
        if m = .load ∧ w.next? = some k then [f w] else [] := by
  rw [loads_concat h, List.map_append]
  refine congrArg₂ (· ++ ·) (List.map_congr_left fun n hn => ?_) ?_
  · have hn := (List.getElem?_eq_some_iff.1 (mem_loads.1 hn).1).1
    rw [after_append _ (Nat.le_of_lt hn)]
  · split <;> simp [after_length h]

theorem zipWith_tail_concat {α β : Type} (f : α → α → β) (xs : List α) (x : α) :
    List.zipWith f (xs ++ [x]) (xs ++ [x]).tail =
      List.zipWith f xs xs.tail ++ (xs.getLast?.map (f · x)).toList := by
  induction xs with
  | nil => rfl
  | cons y ys ih =>
    cases ys with
    | nil => rfl
    | cons z zs => simpa using ih

namespace Keeps

variable {w₀ w w' : Watch} {ms : List Move} {taken : List Counters}

theorem length_reports (h : Keeps w₀ ms w taken) : w.reports.length = taken.length - 1 := by
  simpa using congrArg List.length h.reports

/-- A snapshot is taken at the whole interval whose number it has. -/
theorem now_of_loading (h : Keeps w₀ ms w taken) (ht : w.Timely) {last : Option Counters}
    {got : Counters} {left : List Counter} (hp : w.phase = .loading last got left) :
    w.now = taken.length * Monitor.interval := by
  have hholds := h.holds
  have honTime := ht.onTime
  rw [hp] at hholds honTime
  cases last with
  | none =>
    obtain rfl : taken = [] := List.getLast?_eq_none_iff.1 hholds.1.symm
    rw [List.length_nil, Nat.zero_mul]
    exact honTime.1
  | some last =>
    have hpos : taken ≠ [] := fun hnil => by simp [hnil, Holds] at hholds
    rw [honTime.1, h.length_reports, Nat.sub_add_cancel (List.length_pos_iff.2 hpos)]

/-- A move that loads no counter. -/
theorem concat (h : Keeps w₀ ms w taken) (hrun : w₀.run ms = some w) {m : Move} (hm : m ≠ .load)
    {taken' : List Counters} (holds : Holds taken' w'.phase)
    (values : ∀ k, taken'.map (·.get k) ++ w'.begun k = taken.map (·.get k) ++ w.begun k)
    (reports : w'.reports.map Prod.snd = List.zipWith Monitor.Health.between taken' taken'.tail) :
    Keeps w₀ (ms ++ [m]) w' taken' where
  holds := holds
  values k := by
    rw [map_loads_concat (·.counters.get k) hrun, if_neg (fun hload => hm hload.1),
      List.append_nil, h.values, values]
  times k := by
    rw [map_loads_concat (·.now) hrun, loads_concat hrun, if_neg (fun hload => hm hload.1),
      if_neg (fun hload => hm hload.1), List.append_nil, List.append_nil, h.times]
  reports := reports

/-- A counter is loaded once for every snapshot. -/
theorem load (h : Keeps w₀ ms w taken) (hrun : w₀.run ms = some w) (ht : w.Timely)
    {last : Option Counters} {got : Counters} {k : Counter} {left : List Counter}
    (hp : w.phase = .loading last got (k :: left)) :
    Keeps w₀ (ms ++ [.load])
      { w with phase := .loading last (got.set (w.counters.get k) k) left } taken := by
  have hholds := h.holds
  rw [hp] at hholds
  have hnot : k ∉ left :=
    (List.nodup_cons.1 (hholds.2.sublist.nodup (by decide : Counter.all.Nodup))).1
  have hnext : ∀ j, w.next? = some j ↔ k = j := by simp [next?, hp]
  refine ⟨⟨hholds.1, (List.suffix_cons k left).trans hholds.2⟩, fun j => ?_, fun j => ?_, h.reports⟩
  · rw [map_loads_concat (·.counters.get j) hrun, h.values, List.append_assoc]
    refine congrArg _ ?_
    by_cases hj : k = j
    · subst hj
      simp [begun, hp, hnext, hnot]
    · simp [begun, hp, hnext, hj, Ne.symm hj]
  · rw [map_loads_concat (·.now) hrun, loads_concat hrun, h.times]
    by_cases hj : k = j
    · -- As many snapshots were taken as the counter was loaded before.
      have hlength : (w₀.loads ms j).length = taken.length := by
        simpa [begun, hp, hj] using congrArg List.length (h.values j)
      simp [hnext, hj, List.range_succ, h.now_of_loading ht hp, hlength]
    · simp [hnext, hj]

theorem step (h : Keeps w₀ ms w taken) (hrun : w₀.run ms = some w) (ht : w.Timely) {m : Move}
    (hstep : Step w m w') : ∃ taken', Keeps w₀ (ms ++ [m]) w' taken' := by
  cases hstep with
  | receive | settle | fault | endBus | cancel | pass =>
    exact ⟨taken, h.concat hrun (by simp) h.holds (fun _ => rfl) h.reports⟩
  | load hp => exact ⟨taken, h.load hrun ht hp⟩
  | @begin got hp =>
    have hholds := h.holds
    rw [hp] at hholds
    obtain rfl : taken = [] := List.getLast?_eq_none_iff.1 hholds.1.symm
    exact ⟨[got], h.concat hrun (by simp) rfl (fun k => by simp [begun, hp]) h.reports⟩
  | @report last got hp =>
    have hholds := h.holds
    rw [hp] at hholds
    refine ⟨taken ++ [got], h.concat hrun (by simp) ?_ (fun k => by simp [begun, hp]) ?_⟩
    · exact List.getLast?_concat
    · rw [List.map_append, h.reports, zipWith_tail_concat, ← hholds.1]
      rfl
  | tick hp =>
    have hholds := h.holds
    rw [hp] at hholds
    exact ⟨taken, h.concat hrun (by simp) ⟨hholds.symm, List.suffix_refl _⟩
      (fun k => by simp [begun, hp, Counter.mem_all]) h.reports⟩
  | leave hp =>
    have hholds := h.holds
    rw [hp] at hholds
    exact ⟨taken, h.concat hrun (by simp) (fun hnil => by simp [hnil, Holds] at hholds)
      (fun k => by simp [begun, hp]) h.reports⟩

theorem start (c : Counters) : Keeps (start c) [] (start c) [] where
  holds := ⟨rfl, List.suffix_refl _⟩
  values k := by simp [begun, Watch.start, loads, Counter.mem_all]
  times k := by simp [loads]
  reports := rfl

theorem length_le_loads (h : Keeps w₀ ms w taken) (k : Counter) :
    taken.length ≤ (w₀.loads ms k).length := by
  have hlength := congrArg List.length (h.values k)
  rw [List.length_map, List.length_append, List.length_map] at hlength
  omega

/-- The counter is loaded for the snapshot at its time, and the snapshot has what was loaded. -/
theorem loaded (h : Keeps w₀ ms w taken) (hrun : w₀.run ms = some w) {i : Nat}
    (hi : i < taken.length) (k : Counter) : ∃ x, LoadedIn w₀ ms k i x ∧
      x.counters.get k = (w₀.snapshot ms i).get k ∧ x.counters.get k = taken[i].get k := by
  have hi' : i < (w₀.loads ms k).length := Nat.lt_of_lt_of_le hi (h.length_le_loads k)
  have hat : w₀.loadedAt ms k i = (w₀.loads ms k)[i] := List.getD_eq_getElem _ _ hi'
  obtain ⟨hmove, hnext⟩ := mem_loads.1 (List.getElem_mem hi')
  obtain ⟨x, hx⟩ := run_take hrun (w₀.loads ms k)[i]
  have hafter := after_of_run hx
  have hmapped : i < (taken.map (·.get k)).length := by rwa [List.length_map]
  have htime := congrArg (·[i]?) (h.times k)
  have hvalue := congrArg (·[i]?) (h.values k)
  simp only [List.getElem?_map, List.getElem?_eq_getElem hi', List.getElem?_range hi',
    List.getElem?_append_left hmapped, List.getElem?_eq_getElem hi, Option.map_some,
    Option.some.injEq, hafter] at htime hvalue
  rw [hafter] at hnext
  refine ⟨x, ⟨hat ▸ hx, hat ▸ hmove, hnext, htime⟩, ?_, hvalue⟩
  rw [get_snapshot, hat, hafter]

theorem snapshot_eq (h : Keeps w₀ ms w taken) (hrun : w₀.run ms = some w) {i : Nat}
    (hi : i < taken.length) : w₀.snapshot ms i = taken[i] :=
  Counters.ext_get fun k =>
    have ⟨_, _, hsnapshot, htaken⟩ := h.loaded hrun hi k
    hsnapshot.symm.trans htaken

/-- A counter differs between two of its loads by the moves that add to it in between. -/
theorem countP_between (h : Keeps w₀ ms w taken) (hrun : w₀.run ms = some w) {i : Nat}
    (hi : i + 1 < taken.length) (k : Counter) :
    (w₀.snapshot ms (i + 1)).get k =
      (w₀.snapshot ms i).get k + (w₀.between ms k i).countP (Move.counts k) := by
  obtain ⟨x, hx, hxget, -⟩ := h.loaded hrun (Nat.lt_of_succ_lt hi) k
  obtain ⟨y, hy, hyget, -⟩ := h.loaded hrun hi k
  have hle : w₀.loadedAt ms k i ≤ w₀.loadedAt ms k (i + 1) := by
    have hi' := Nat.lt_of_lt_of_le hi (h.length_le_loads k)
    rw [loadedAt, loadedAt, List.getD_eq_getElem _ _ hi',
      List.getD_eq_getElem _ _ (Nat.lt_of_succ_lt hi')]
    exact Nat.le_of_lt (List.pairwise_iff_getElem.1 (List.pairwise_lt_range.filter _) _ _ _ _
      (Nat.lt_succ_self i))
  have hsplit : ms.take (w₀.loadedAt ms k (i + 1)) =
      ms.take (w₀.loadedAt ms k i) ++ w₀.between ms k i := by
    have h := List.take_append_drop (w₀.loadedAt ms k i) (ms.take (w₀.loadedAt ms k (i + 1)))
    rw [List.take_take, Nat.min_eq_left hle] at h
    exact h.symm
  rw [← hxget, ← hyget, get_counters_run hx.run, get_counters_run hy.run, hsplit,
    List.countP_append, Nat.add_assoc]

/-- A snapshot has no more of anything than is counted in the end. -/
theorem get_snapshot_le (h : Keeps w₀ ms w taken) (hrun : w₀.run ms = some w) {i : Nat}
    (hi : i < taken.length) (k : Counter) : (w₀.snapshot ms i).get k ≤ w.counters.get k := by
  obtain ⟨x, hx, hxget, -⟩ := h.loaded hrun hi k
  rw [← hxget, get_counters_run hx.run, get_counters_run hrun]
  exact Nat.add_le_add_left (List.take_sublist _ _).countP_le _

theorem received_between (h : Keeps w₀ ms w taken) (hrun : w₀.run ms = some w) {i : Nat}
    (hi : i + 1 < taken.length) : (w₀.snapshot ms (i + 1)).received =
      (w₀.snapshot ms i).received + (w₀.between ms .received i).countP (Move.counts .received) :=
  h.countP_between hrun hi .received

theorem failures_between (h : Keeps w₀ ms w taken) (hrun : w₀.run ms = some w) {i : Nat}
    (hi : i + 1 < taken.length) : (w₀.snapshot ms (i + 1)).failures =
      (w₀.snapshot ms i).failures + ((w₀.between ms .failed i).countP (Move.counts .failed) +
        (w₀.between ms .panicked i).countP (Move.counts .panicked)) := by
  have hfailed : _ = _ + _ := h.countP_between hrun hi .failed
  have hpanicked : _ = _ + _ := h.countP_between hrun hi .panicked
  simp only [Counters.get] at hfailed hpanicked
  simp only [Counters.failures]
  omega

theorem failures_snapshot_le (h : Keeps w₀ ms w taken) (hrun : w₀.run ms = some w) {i : Nat}
    (hi : i < taken.length) : (w₀.snapshot ms i).failures ≤ w.counters.failures :=
  Nat.add_le_add (h.get_snapshot_le hrun hi .failed) (h.get_snapshot_le hrun hi .panicked)

/-- A report is on two snapshots that follow one another. -/
theorem report (h : Keeps w₀ ms w taken) (hrun : w₀.run ms = some w) {i t : Nat}
    {health : Monitor.Health} (hi : w.reports[i]? = some (t, health)) :
    i + 1 < taken.length ∧
      health = .between (w₀.snapshot ms i) (w₀.snapshot ms (i + 1)) := by
  have hlt : i + 1 < taken.length := by
    have := (List.getElem?_eq_some_iff.1 hi).1
    rw [h.length_reports] at this
    omega
  refine ⟨hlt, ?_⟩
  have hreport := congrArg (·[i]?) h.reports
  have htail : i < taken.tail.length := by
    rw [List.length_tail]
    omega
  simp only [List.getElem?_map, hi, Option.map_some, List.getElem?_zipWith,
    List.getElem?_eq_getElem (Nat.lt_of_succ_lt hlt), List.getElem?_eq_getElem htail,
    List.getElem_tail, Option.some.injEq] at hreport
  rw [h.snapshot_eq hrun hlt, h.snapshot_eq hrun (Nat.lt_of_succ_lt hlt), hreport]

end Keeps

theorem exists_keeps {c : Counters} {w : Watch} {ms : List Move} (h : (start c).run ms = some w) :
    ∃ taken, Keeps (start c) ms w taken :=
  run_induction (P := fun ms w => ∃ taken, Keeps (start c) ms w taken) ⟨[], .start c⟩
    (fun _ _ _ _ hrun ⟨_, ih⟩ hstep => ih.step hrun (timely_run (timely_start c) hrun) hstep) h

end Watch

end Coordination
