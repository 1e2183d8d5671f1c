import Coordination.Proofs.Performance.Replies

/-!
# Limits on what runs at once

A job that has been handed over has ended, so from now on only those scores are computed whose
jobs run (`Orderly.countP_isComputedAt_le`), and a limit that is kept by the jobs that run
(`Within.room`) is kept at every instant by the scores that are computed and, times the calls per
job, by the calls in flight. A step keeps all of this (`Orderly.step`, `Within.step`). At the
beginning there is room for as many jobs as the limit allows, and they begin at once
(`steps_begin`): the limit is also reached (`limit_is_kept`).
-/

namespace Coordination

/-! ## Instants -/

/-- Whether a call is in flight: it has begun and not ended. -/
def CallRecord.isInFlightAt (t : Nat) (c : CallRecord) : Bool := decide (c.start ≤ t ∧ t < c.stop)

/-- Whether a score is being computed: one of the calls about it is in flight. -/
def JobRecord.isComputedAt (t : Nat) (j : JobRecord) : Bool :=
  j.calls.any (CallRecord.isInFlightAt t)

namespace JobRecord

variable {j : JobRecord} {t : Nat}

theorem stop_le_stop {c : CallRecord} (hc : c ∈ j.calls) : c.stop ≤ j.stop := by
  have hfold (cs : List CallRecord) (t : Nat) :
      t ≤ cs.foldl (fun t c => max t c.stop) t ∧
        ∀ c ∈ cs, c.stop ≤ cs.foldl (fun t c => max t c.stop) t := by
    induction cs generalizing t with
    | nil => simp
    | cons c cs ih =>
      obtain ⟨hstart, hrest⟩ := ih (max t c.stop)
      rw [List.foldl_cons, List.forall_mem_cons]
      exact ⟨by omega, by omega, hrest⟩
  exact (hfold j.calls 0).2 c hc

theorem not_isComputedAt_of_stop_le (h : j.stop ≤ t) : j.isComputedAt t = false := by
  rw [isComputedAt, List.any_eq_false]
  intro c hc
  have := stop_le_stop hc
  simp only [CallRecord.isInFlightAt, decide_eq_true_eq]
  omega

theorem not_isComputedAt_of_lt (h : ∀ c ∈ j.calls, t < c.start) : j.isComputedAt t = false := by
  rw [isComputedAt, List.any_eq_false]
  intro c hc
  have := h c hc
  simp only [CallRecord.isInFlightAt, decide_eq_true_eq]
  omega

end JobRecord

/-- As long as no job has more calls, at most so many calls are in flight for each score that is
being computed. -/
theorem countP_isInFlightAt_le {width : Nat} (t : Nat) {jobs : List JobRecord}
    (h : ∀ j ∈ jobs, j.calls.length ≤ width) :
    (jobs.flatMap JobRecord.calls).countP (CallRecord.isInFlightAt t) ≤
      width * jobs.countP (JobRecord.isComputedAt t) := by
  induction jobs with
  | nil => simp
  | cons j jobs ih =>
    obtain ⟨hj, hjobs⟩ := List.forall_mem_cons.1 h
    have hrest := ih hjobs
    rw [List.flatMap_cons, List.countP_append, List.countP_cons]
    have hcalls : j.calls.countP (CallRecord.isInFlightAt t) ≤
        width * if j.isComputedAt t = true then 1 else 0 := by
      split
      · have := List.countP_le_length (p := CallRecord.isInFlightAt t) (l := j.calls)
        omega
      · rename_i hnot
        rw [Nat.mul_zero, Nat.le_zero, List.countP_eq_zero]
        intro c hc hflight
        exact hnot (List.any_eq_true.2 ⟨c, hc, hflight⟩)
    rw [Nat.mul_add]
    omega

/-! ## Peaks -/

namespace BatchReport

theorem peakFrom_append (earlier cs ds : List CallRecord) :
    peakFrom earlier (cs ++ ds) =
      max (peakFrom earlier cs) (peakFrom (cs.reverse ++ earlier) ds) := by
  induction cs generalizing earlier with
  | nil => simp [peakFrom]
  | cons c cs ih =>
    rw [List.cons_append, peakFrom, peakFrom, ih, Nat.max_assoc, List.reverse_cons,
      List.append_assoc]
    rfl

/-- Calls that begin together meet what is left of the earlier ones, and each other. -/
theorem peakFrom_le (earlier : List CallRecord) {now : Nat} {cs : List CallRecord}
    (h : ∀ c ∈ cs, c.start = now) :
    peakFrom earlier cs ≤ earlier.countP (fun e => now < e.stop) + cs.length := by
  induction cs generalizing earlier with
  | nil => simp [peakFrom]
  | cons c cs ih =>
    obtain ⟨rfl, hrest⟩ := List.forall_mem_cons.1 h
    have hlater := ih (c :: earlier) hrest
    have hone : (c :: earlier).countP (fun e => c.start < e.stop) ≤
        earlier.countP (fun e => c.start < e.stop) + 1 := by
      rw [List.countP_cons]
      split <;> omega
    rw [peakFrom, inFlight, List.length_cons]
    omega

theorem peakFrom_le_length (earlier cs : List CallRecord) :
    peakFrom earlier cs ≤ earlier.length + cs.length := by
  induction cs generalizing earlier with
  | nil => simp [peakFrom]
  | cons c cs ih =>
    have hlater := ih (c :: earlier)
    have := List.countP_le_length (p := fun e : CallRecord => decide (c.start < e.stop))
      (l := earlier)
    rw [peakFrom, inFlight, List.length_cons]
    rw [List.length_cons] at hlater
    omega

/-- At no instant more calls are in flight than when one of them began. -/
theorem countP_isInFlightAt_le_peakFrom (t : Nat) (earlier cs : List CallRecord) :
    (earlier ++ cs).countP (CallRecord.isInFlightAt t) ≤
      max (earlier.countP (CallRecord.isInFlightAt t)) (peakFrom earlier cs) := by
  induction cs generalizing earlier with
  | nil => simp [peakFrom]
  | cons c cs ih =>
    have hlater := ih (c :: earlier)
    have hmoved : (earlier ++ c :: cs).countP (CallRecord.isInFlightAt t) =
        (c :: earlier ++ cs).countP (CallRecord.isInFlightAt t) := by
      simp only [List.countP_append, List.countP_cons]
      omega
    have hbegin : (c :: earlier).countP (CallRecord.isInFlightAt t) ≤
        max (earlier.countP (CallRecord.isInFlightAt t)) (inFlight earlier c) := by
      rw [List.countP_cons, inFlight]
      split
      · rename_i hc
        have : earlier.countP (CallRecord.isInFlightAt t) ≤
            earlier.countP fun e => decide (c.start < e.stop) := by
          refine List.countP_mono_left fun e _ he => ?_
          simp only [CallRecord.isInFlightAt, decide_eq_true_eq] at hc he ⊢
          omega
        omega
      · omega
    rw [hmoved, peakFrom]
    omega

variable (r : BatchReport)

theorem peak_le_length : r.peak ≤ r.calls.length := by
  have := peakFrom_le_length [] r.calls
  rw [List.length_nil, Nat.zero_add] at this
  exact this

theorem countP_isInFlightAt_le_peak (t : Nat) :
    r.calls.countP (CallRecord.isInFlightAt t) ≤ r.peak := by
  have := countP_isInFlightAt_le_peakFrom t [] r.calls
  rw [List.nil_append, List.countP_nil, Nat.zero_max] at this
  exact this

/-- Calls that take time and begin together are all in flight then. -/
theorem length_le_countP_isInFlightAt {t : Nat} {first rest : List CallRecord}
    (h : r.calls = first ++ rest) (hstart : ∀ c ∈ first, c.start = t)
    (hpositive : ∀ c ∈ r.calls, 0 < c.answer.duration) :
    first.length ≤ r.calls.countP (CallRecord.isInFlightAt t) := by
  have hfirst : first.countP (CallRecord.isInFlightAt t) = first.length := by
    rw [List.countP_eq_length]
    intro c hc
    have := hpositive c (h ▸ List.mem_append_left _ hc)
    have := hstart c hc
    refine decide_eq_true ?_
    show c.start ≤ t ∧ t < c.start + c.answer.duration
    omega
  rw [h, List.countP_append, hfirst]
  exact Nat.le_add_right _ _

end BatchReport

/-! ## Jobs -/

namespace Job

variable {κ : Type} [Calculator κ] (job : Job) (beatmapId : UInt32) (now : Nat) (calculator : κ)

theorem length_calls_begin :
    (job.begin beatmapId now calculator).1.calls.length = callsPerJob job.hypothetical := by
  unfold Job.begin callsPerJob
  split <;> rfl

theorem start_of_mem_begin : ∀ c ∈ (job.begin beatmapId now calculator).1.calls,
    c.start = now := by
  unfold Job.begin
  split
  · exact List.forall_mem_cons.2 ⟨rfl, List.forall_mem_cons.2 ⟨rfl, List.forall_mem_nil _⟩⟩
  · exact List.forall_mem_cons.2 ⟨rfl, List.forall_mem_nil _⟩

end Job

/-! ## Batches -/

namespace Batch

variable {κ : Type} [Calculator κ] (b : Batch κ)

/-- The jobs that have begun, in this order. -/
def begun : List JobRecord := b.finished ++ b.running

def begunCalls : List CallRecord := b.begun.flatMap JobRecord.calls

theorem begun_started (job : Job) (waiting : List Job) : (b.started job waiting).begun =
    b.begun ++ [(job.begin b.beatmapId b.now b.calculator).1] :=
  (List.append_assoc _ _ _).symm

theorem begunCalls_started (job : Job) (waiting : List Job) :
    (b.started job waiting).begunCalls =
      b.begunCalls ++ (job.begin b.beatmapId b.now b.calculator).1.calls := by
  rw [begunCalls, begun_started, List.flatMap_append, List.flatMap_singleton]
  rfl

omit [Calculator κ] in
theorem begun_delivered {job : JobRecord} {running : List JobRecord}
    (h : b.running = job :: running) : (b.delivered job running).begun = b.begun := by
  rw [begun, begun, h]
  exact List.append_assoc _ _ _

theorem begun_prefix_step : b.begun <+: b.step.begun := by
  refine b.step_cases (P := fun c => b.begun <+: c.begun) ?_ ?_ ?_
  · intro job waiting _ _
    rw [begun_started]
    exact List.prefix_append _ _
  · intro job running hrunning
    exact ⟨[], (List.append_nil _).trans (b.begun_delivered hrunning).symm⟩
  · exact fun _ _ => List.prefix_refl _

theorem begun_prefix_steps (n : Nat) : b.begun <+: (b.steps n).begun := by
  induction n generalizing b with
  | zero => exact List.prefix_refl _
  | succ n ih => exact b.begun_prefix_step.trans (ih b.step)

/-- What holds of a batch with jobs of so many calls each, whatever its limit. -/
structure Orderly (width : Nat) : Prop where
  waiting : ∀ job ∈ b.waiting, callsPerJob job.hypothetical = width
  width : ∀ j ∈ b.begun, j.calls.length = width
  /-- Nothing begins in the future. -/
  started : ∀ c ∈ b.begunCalls, c.start ≤ b.now
  /-- What has been handed over has ended. -/
  ended : ∀ j ∈ b.finished, j.stop ≤ b.now
  order : b.begunCalls.Pairwise fun c d => c.start ≤ d.start

variable {b} {width cap : Nat}

theorem Orderly.step (h : b.Orderly width) : b.step.Orderly width := by
  refine b.step_cases (P := fun c => c.Orderly width) ?_ ?_ ?_
  · intro job waiting hwaiting _
    have hstart := job.start_of_mem_begin b.beatmapId b.now b.calculator
    obtain ⟨hjob, hrest⟩ := List.forall_mem_cons.1 (hwaiting ▸ h.waiting)
    refine ⟨hrest, ?_, ?_, h.ended, ?_⟩
    · rw [begun_started, List.forall_mem_append]
      refine ⟨h.width, List.forall_mem_singleton.2 ?_⟩
      rw [job.length_calls_begin, hjob]
    · rw [begunCalls_started, List.forall_mem_append]
      exact ⟨h.started, fun c hc => Nat.le_of_eq (hstart c hc)⟩
    · rw [begunCalls_started, List.pairwise_append]
      refine ⟨h.order, ?_, ?_⟩
      · refine (List.pairwise_of_forall fun _ _ => trivial).imp_of_mem fun {c d} hc hd _ => ?_
        exact Nat.le_of_eq ((hstart c hc).trans (hstart d hd).symm)
      · intro c hc d hd
        rw [hstart d hd]
        exact h.started c hc
  · intro job running hrunning
    have hbegun := b.begun_delivered hrunning
    have hcalls : (b.delivered job running).begunCalls = b.begunCalls := by
      rw [begunCalls, begunCalls, hbegun]
    refine ⟨h.waiting, hbegun ▸ h.width, ?_, ?_, hcalls ▸ h.order⟩
    · rw [hcalls]
      exact fun c hc => Nat.le_trans (h.started c hc) (Nat.le_max_left _ _)
    · refine List.forall_mem_append.2 ⟨?_, List.forall_mem_singleton.2 (Nat.le_max_right _ _)⟩
      exact fun j hj => Nat.le_trans (h.ended j hj) (Nat.le_max_left _ _)
  · exact fun _ _ => h

theorem Orderly.steps (h : b.Orderly width) (n : Nat) : (b.steps n).Orderly width := by
  induction n generalizing b with
  | zero => exact h
  | succ n ih => exact ih h.step

/-- At no time more scores are computed than the limit allows. -/
structure Within (b : Batch κ) (width cap : Nat) : Prop where
  room : b.running.length ≤ cap
  computed : ∀ t, b.begun.countP (JobRecord.isComputedAt t) ≤ cap
  peak : BatchReport.peakFrom [] b.begunCalls ≤ width * cap

omit [Calculator κ] in
/-- From now on only those are computed that run. -/
theorem Orderly.countP_isComputedAt_le (h : b.Orderly width) {t : Nat} (ht : b.now ≤ t) :
    b.begun.countP (JobRecord.isComputedAt t) ≤ b.running.length := by
  have hfinished : b.finished.countP (JobRecord.isComputedAt t) = 0 := by
    rw [List.countP_eq_zero]
    intro j hj
    rw [JobRecord.not_isComputedAt_of_stop_le (Nat.le_trans (h.ended j hj) ht)]
    exact Bool.false_ne_true
  rw [begun, List.countP_append, hfinished, Nat.zero_add]
  exact List.countP_le_length

omit [Calculator κ] in
/-- Of the calls that have begun only those of running jobs are still in flight. -/
theorem Orderly.countP_stop_le (h : b.Orderly width) :
    b.begunCalls.countP (fun c => b.now < c.stop) ≤ width * b.running.length := by
  have hfinished : (b.finished.flatMap JobRecord.calls).countP (fun c => b.now < c.stop) = 0 := by
    rw [List.countP_eq_zero]
    intro c hc hlt
    obtain ⟨j, hj, hc⟩ := List.mem_flatMap.1 hc
    have := JobRecord.stop_le_stop hc
    have := h.ended j hj
    have := of_decide_eq_true hlt
    omega
  have hrunning : (b.running.flatMap JobRecord.calls).length = width * b.running.length :=
    length_flatMap_of_length_eq fun j hj => h.width j (List.mem_append_right _ hj)
  rw [begunCalls, begun, List.flatMap_append, List.countP_append, hfinished, Nat.zero_add,
    ← hrunning]
  exact List.countP_le_length

theorem Within.step (h : b.Within width cap) (ho : b.Orderly width) (hlimit : b.limit = some cap) :
    b.step.Within width cap := by
  refine b.step_cases (P := fun c => c.Within width cap) ?_ ?_ ?_
  · intro job waiting hwaiting hroom
    have hrunning : b.running.length < cap := by
      rw [hasRoom, hlimit, Option.all_some, decide_eq_true_eq] at hroom
      exact hroom
    have hstart := job.start_of_mem_begin b.beatmapId b.now b.calculator
    refine ⟨?_, ?_, ?_⟩
    · show (b.running ++ [_]).length ≤ cap
      rw [List.length_append, List.length_singleton]
      exact hrunning
    · intro t
      rw [begun_started, List.countP_append, List.countP_singleton]
      by_cases ht : b.now ≤ t
      · have := ho.countP_isComputedAt_le ht
        split <;> omega
      · have hnot : (job.begin b.beatmapId b.now b.calculator).1.isComputedAt t = false := by
          refine JobRecord.not_isComputedAt_of_lt fun c hc => ?_
          rw [hstart c hc]
          omega
        rw [hnot, if_neg Bool.false_ne_true, Nat.add_zero]
        exact h.computed t
    · rw [begunCalls_started, BatchReport.peakFrom_append, Nat.max_le]
      refine ⟨h.peak, Nat.le_trans (BatchReport.peakFrom_le _ hstart) ?_⟩
      rw [List.append_nil, List.countP_reverse, job.length_calls_begin,
        ho.waiting job (hwaiting ▸ List.mem_cons_self)]
      calc _ ≤ width * b.running.length + width := Nat.add_le_add_right ho.countP_stop_le width
        _ = width * (b.running.length + 1) := rfl
        _ ≤ width * cap := Nat.mul_le_mul_left width hrunning
  · intro job running hrunning
    have hbegun := b.begun_delivered hrunning
    refine ⟨?_, ?_, ?_⟩
    · have := h.room
      rw [hrunning, List.length_cons] at this
      show running.length ≤ cap
      omega
    · rw [hbegun]
      exact h.computed
    · rw [begunCalls, hbegun]
      exact h.peak
  · exact fun _ _ => h

theorem Within.steps (h : b.Within width cap) (ho : b.Orderly width) (hlimit : b.limit = some cap)
    (n : Nat) : (b.steps n).Within width cap := by
  induction n generalizing b with
  | zero => exact h
  | succ n ih => exact ih (h.step ho hlimit) ho.step (b.limit_step.trans hlimit)

/-! ## The beginning and the end -/

/-- While there is room the next jobs begin, all at the same time. -/
theorem steps_begin (n : Nat) (hwaiting : n ≤ b.waiting.length)
    (hroom : ∀ l ∈ b.limit, b.running.length + n ≤ l) :
    (b.steps n).now = b.now ∧ (b.steps n).begun.length = b.begun.length + n := by
  induction n generalizing b with
  | zero => exact ⟨rfl, rfl⟩
  | succ n ih =>
    cases hw : b.waiting with
    | nil =>
      rw [hw, List.length_nil] at hwaiting
      omega
    | cons job waiting =>
      have hfree : b.hasRoom = true := by
        unfold hasRoom
        cases hl : b.limit with
        | none => rfl
        | some l =>
          have := hroom l hl
          rw [Option.all_some, decide_eq_true_eq]
          omega
      have hstep : b.step = b.started job waiting := by
        rw [Batch.step, hw]
        exact if_pos hfree
      obtain ⟨hnow, hlength⟩ := @ih (b.started job waiting)
        (by rw [hw, List.length_cons] at hwaiting; exact Nat.le_of_succ_le_succ hwaiting)
        (fun l hl => by
          have := hroom l hl
          show (b.running ++ [_]).length + n ≤ l
          rw [List.length_append, List.length_singleton]
          omega)
      rw [Batch.steps, hstep]
      refine ⟨hnow, ?_⟩
      rw [hlength, begun_started, List.length_append, List.length_singleton]
      omega

theorem steps_add (b : Batch κ) (m n : Nat) : b.steps (m + n) = (b.steps m).steps n := by
  induction m generalizing b with
  | zero => rw [Nat.zero_add]; rfl
  | succ m ih => rw [Nat.succ_add]; exact ih b.step

end Batch

namespace Fanout

/-- All plays are asked about, one job each, and the jobs begin in the order of the plays. -/
structure InOrder (hypothetical : Bool) (beatmapId : UInt32) (plays : List Play)
    (report : BatchReport) : Prop where
  jobs : (report.jobs.map fun job => job.calls.map CallRecord.request) =
    plays.map (Sequential.requestsOf hypothetical beatmapId)
  starts : report.calls.Pairwise fun c d => c.start ≤ d.start

/-- The batch keeps to a limit with jobs of so many calls each. -/
structure Capped {κ : Type} [Calculator κ] (width cap plays : Nat) (b : Batch κ)
    (report : BatchReport) : Prop where
  /-- At every step so many jobs at most have begun and are not handed over. -/
  running : ∀ n, (b.steps n).running.length ≤ cap
  computed : ∀ t, report.jobs.countP (JobRecord.isComputedAt t) ≤ cap
  inFlight : ∀ t, report.calls.countP (CallRecord.isInFlightAt t) ≤ width * cap
  peak_le : report.peak ≤ width * cap
  /-- If calls take time, the limit is reached or else all jobs run at once. -/
  peak_eq : (∀ c ∈ report.calls, 0 < c.answer.duration) → report.peak = width * min cap plays ∧
    ∃ t, report.calls.countP (CallRecord.isInFlightAt t) = report.peak

section

variable {κ : Type} [Calculator κ] (calculator : κ) (beatmapId : UInt32) (plays : List Play)
  (hypothetical : Bool)

omit [Calculator κ] in
theorem orderly_batch (f : Fanout) :
    (f.batch calculator beatmapId (plays.map (⟨·, hypothetical⟩))).Orderly
      (callsPerJob hypothetical) where
  waiting job hjob := by
    obtain ⟨play, -, rfl⟩ := List.mem_map.1 hjob
    rfl
  width := List.forall_mem_nil _
  started := List.forall_mem_nil _
  ended := List.forall_mem_nil _
  order := List.Pairwise.nil

theorem jobs_runJobs (limit : Option Nat) (jobs : List Job) :
    ((withMaxInFlight limit).runJobs calculator beatmapId jobs).jobs =
      ((withMaxInFlight limit).batch calculator beatmapId jobs).run.begun := by
  rw [Batch.begun, (done_run_batch calculator beatmapId limit jobs).running, List.append_nil]
  rfl

theorem calls_runJobs (limit : Option Nat) (jobs : List Job) :
    ((withMaxInFlight limit).runJobs calculator beatmapId jobs).calls =
      ((withMaxInFlight limit).batch calculator beatmapId jobs).run.begunCalls := by
  rw [BatchReport.calls, jobs_runJobs]
  rfl

theorem inOrder_runJobs (limit : Option Nat) : InOrder hypothetical beatmapId plays
    ((withMaxInFlight limit).runJobs calculator beatmapId (plays.map (⟨·, hypothetical⟩))) := by
  constructor
  · exact asked_runJobs calculator beatmapId limit hypothetical plays
  · rw [calls_runJobs]
    exact ((orderly_batch calculator beatmapId plays hypothetical _).steps _).order

theorem length_jobs_runJobs (limit : Option Nat) :
    ((withMaxInFlight limit).runJobs calculator beatmapId
      (plays.map (⟨·, hypothetical⟩))).jobs.length = plays.length := by
  have := (inOrder_runJobs calculator beatmapId plays hypothetical limit).jobs
  simpa using congrArg List.length this

theorem length_calls_runJobs (limit : Option Nat) :
    ((withMaxInFlight limit).runJobs calculator beatmapId
      (plays.map (⟨·, hypothetical⟩))).calls.length = callsPerJob hypothetical * plays.length := by
  rw [← length_jobs_runJobs calculator beatmapId plays hypothetical limit, BatchReport.calls]
  refine length_flatMap_of_length_eq ?_
  rw [jobs_runJobs]
  exact ((orderly_batch calculator beatmapId plays hypothetical _).steps _).width

/-- As many jobs as there is room for begin at once. -/
theorem exists_begun_runJobs (limit : Option Nat) (n : Nat) (hplays : n ≤ plays.length)
    (hlimit : ∀ l ∈ limit, n ≤ max l 1) :
    ∃ first rest, ((withMaxInFlight limit).runJobs calculator beatmapId
        (plays.map (⟨·, hypothetical⟩))).calls = first ++ rest ∧
      first.length = callsPerJob hypothetical * n ∧ ∀ c ∈ first, c.start = 0 := by
  have ho := orderly_batch calculator beatmapId plays hypothetical (withMaxInFlight limit)
  rw [calls_runJobs]
  generalize hb : (withMaxInFlight limit).batch calculator beatmapId
    (plays.map (⟨·, hypothetical⟩)) = b at ho ⊢
  have hwaiting : b.waiting.length = plays.length := by
    rw [← hb]
    exact List.length_map _
  obtain ⟨hnow, hlength⟩ := b.steps_begin n (by omega) (by
    rw [← hb]
    intro l hl
    obtain ⟨k, hk, rfl⟩ := Option.map_eq_some_iff.1 hl
    show 0 + n ≤ max k 1
    have := hlimit k hk
    omega)
  have hnow' : (b.steps n).now = 0 := by
    rw [hnow, ← hb]
    rfl
  have hlength' : (b.steps n).begun.length = n := by
    rw [hlength, ← hb]
    exact Nat.zero_add n
  obtain ⟨rest, hrest⟩ := (b.steps n).begun_prefix_steps (2 * b.waiting.length - n)
  have hrun : b.run = (b.steps n).steps (2 * b.waiting.length - n) := by
    rw [← Batch.steps_add, Nat.add_sub_cancel' (by omega)]
    rfl
  refine ⟨(b.steps n).begunCalls, rest.flatMap JobRecord.calls, ?_, ?_, ?_⟩
  · rw [hrun, Batch.begunCalls, ← hrest, List.flatMap_append]
    rfl
  · rw [Batch.begunCalls, length_flatMap_of_length_eq (ho.steps n).width, hlength']
  · intro c hc
    have := (ho.steps n).started c hc
    omega

theorem capped_runJobs (k : Nat) :
    Capped (callsPerJob hypothetical) (max k 1) plays.length
      ((withMaxInFlight (some k)).batch calculator beatmapId (plays.map (⟨·, hypothetical⟩)))
      ((withMaxInFlight (some k)).runJobs calculator beatmapId
        (plays.map (⟨·, hypothetical⟩))) := by
  have ho := orderly_batch calculator beatmapId plays hypothetical (withMaxInFlight (some k))
  have hjobs := jobs_runJobs calculator beatmapId (some k) (plays.map (⟨·, hypothetical⟩))
  have hcalls := calls_runJobs calculator beatmapId (some k) (plays.map (⟨·, hypothetical⟩))
  have hlength := length_calls_runJobs calculator beatmapId plays hypothetical (some k)
  have hfirst := exists_begun_runJobs calculator beatmapId plays hypothetical (some k)
    (min (max k 1) plays.length) (Nat.min_le_right _ _)
    (by rintro l ⟨⟩; exact Nat.min_le_left _ _)
  have hempty : Batch.Within ((withMaxInFlight (some k)).batch calculator beatmapId
      (plays.map (⟨·, hypothetical⟩))) (callsPerJob hypothetical) (max k 1) :=
    ⟨Nat.zero_le _, fun _ => Nat.zero_le _, Nat.zero_le _⟩
  have hwithin := hempty.steps ho rfl
  generalize (withMaxInFlight (some k)).runJobs calculator beatmapId
    (plays.map (⟨·, hypothetical⟩)) = report at hjobs hcalls hlength hfirst ⊢
  have hcomputed (t : Nat) : report.jobs.countP (JobRecord.isComputedAt t) ≤ max k 1 := by
    rw [hjobs]
    exact (hwithin _).computed t
  have hpeak : report.peak ≤ callsPerJob hypothetical * max k 1 := by
    rw [BatchReport.peak, hcalls]
    exact (hwithin _).peak
  have hwidth : ∀ j ∈ report.jobs, j.calls.length ≤ callsPerJob hypothetical := by
    rw [hjobs]
    exact fun j hj => Nat.le_of_eq ((ho.steps _).width j hj)
  refine ⟨fun n => (hwithin n).room, hcomputed, ?_, hpeak, ?_⟩
  · intro t
    calc report.calls.countP (CallRecord.isInFlightAt t)
      _ ≤ callsPerJob hypothetical * report.jobs.countP (JobRecord.isComputedAt t) :=
        countP_isInFlightAt_le t hwidth
      _ ≤ callsPerJob hypothetical * max k 1 := Nat.mul_le_mul_left _ (hcomputed t)
  · intro hpositive
    -- At the beginning as many jobs run as may at all, and none has ended.
    obtain ⟨first, rest, hsplit, hcount, hstart⟩ := hfirst
    have hbeginning := report.length_le_countP_isInFlightAt hsplit hstart hpositive
    have hbelow := report.countP_isInFlightAt_le_peak 0
    have hmost : report.peak ≤ callsPerJob hypothetical * min (max k 1) plays.length := by
      rw [← Nat.mul_min_mul_left, ← hlength]
      exact Nat.le_min.2 ⟨hpeak, report.peak_le_length⟩
    rw [hcount] at hbeginning
    exact ⟨by omega, 0, by omega⟩

theorem start_eq_zero_runJobs {c : CallRecord} (hc : c ∈ ((withMaxInFlight none).runJobs calculator
    beatmapId (plays.map (⟨·, hypothetical⟩))).calls) : c.start = 0 := by
  obtain ⟨first, rest, hsplit, hcount, hstart⟩ := exists_begun_runJobs calculator beatmapId plays
    hypothetical none plays.length (Nat.le_refl _) nofun
  have hlength := length_calls_runJobs calculator beatmapId plays hypothetical none
  rw [hsplit, List.length_append, hcount] at hlength
  have hrest : rest = [] := List.length_eq_zero_iff.1 (by omega)
  rw [hsplit, hrest, List.append_nil] at hc
  exact hstart c hc

end

/-- A limit is kept and used. For any limit and whatever time the calls take, a batch ends, its jobs
begin in the order of the plays, and at no time more scores are computed, nor more calls in flight
for them, than the limit allows; the least limit is one. If every call takes time, as many calls as
are allowed, or as there are, are in flight at once. Without a limit all calls begin at once. -/
theorem limit_is_kept {κ : Type} [Calculator κ] (calculator : κ) (beatmapId : UInt32)
    (plays : List Play) :
    (∀ limit,
      let f := withMaxInFlight limit
      let plain := f.batch calculator beatmapId (plays.map (⟨·, false⟩))
      let paired := f.batch calculator beatmapId (plays.map (⟨·, true⟩))
      (plain.run.Done ∧ f.computeMany calculator beatmapId plays = ⟨plain.run.finished⟩ ∧
        InOrder false beatmapId plays (f.computeMany calculator beatmapId plays)) ∧
      (paired.run.Done ∧
        f.computeManyWithHypothetical calculator beatmapId plays = ⟨paired.run.finished⟩ ∧
        InOrder true beatmapId plays (f.computeManyWithHypothetical calculator beatmapId plays))) ∧
    (∀ k,
      let f := withMaxInFlight (some k)
      let cap := max k 1
      f.maxInFlight = some cap ∧
      Capped 1 cap plays.length (f.batch calculator beatmapId (plays.map (⟨·, false⟩)))
        (f.computeMany calculator beatmapId plays) ∧
      Capped 2 cap plays.length (f.batch calculator beatmapId (plays.map (⟨·, true⟩)))
        (f.computeManyWithHypothetical calculator beatmapId plays)) ∧
    (let f := withMaxInFlight none
    (∀ c ∈ (f.computeMany calculator beatmapId plays).calls, c.start = 0) ∧
      ∀ c ∈ (f.computeManyWithHypothetical calculator beatmapId plays).calls, c.start = 0) := by
  refine ⟨?_, ?_, ?_, ?_⟩
  · intro limit f plain paired
    refine ⟨⟨?_, rfl, ?_⟩, ?_, rfl, ?_⟩
    · exact done_run_batch calculator beatmapId limit _
    · exact inOrder_runJobs calculator beatmapId plays false limit
    · exact done_run_batch calculator beatmapId limit _
    · exact inOrder_runJobs calculator beatmapId plays true limit
  · intro k f cap
    refine ⟨rfl, ?_, ?_⟩
    · exact capped_runJobs calculator beatmapId plays false k
    · exact capped_runJobs calculator beatmapId plays true k
  · exact fun c => start_eq_zero_runJobs calculator beatmapId plays false
  · exact fun c => start_eq_zero_runJobs calculator beatmapId plays true

/-- Calls of 30, 10 and 20 milliseconds, the third of which fails, and any number of 5. -/
def unevenReplies : PreparedAnswers where
  answers := [{ duration := 30, result := .ok { stars := 5.25, pp := 250.5 } },
    { duration := 10, result := .ok { stars := 4.5, pp := 120.25 } },
    { duration := 20, result := .error .request }]
  afterLast := { duration := 5, result := .ok { stars := 1.5, pp := 12.5 } }

/-- Three plays, two at once: there are two calls in flight at most, or four in pairs, and at some
time there are. -/
theorem limit_is_kept_two :
    let f := withMaxInFlight (some 2)
    let plain := f.computeMany unevenReplies 75 [{}, {}, {}]
    let paired := f.computeManyWithHypothetical unevenReplies 75 [{}, {}, {}]
    (∀ c ∈ plain.calls ++ paired.calls, 0 < c.answer.duration) ∧
      (plain.peak = 2 ∧ ∃ t, plain.calls.countP (CallRecord.isInFlightAt t) = plain.peak) ∧
      (paired.peak = 4 ∧ ∃ t, paired.calls.countP (CallRecord.isInFlightAt t) = paired.peak) := by
  intro f plain paired
  have hpositive : ∀ c ∈ plain.calls ++ paired.calls, 0 < c.answer.duration := by decide +kernel
  obtain ⟨-, hcapped, -⟩ := limit_is_kept unevenReplies 75 [{}, {}, {}]
  obtain ⟨-, hplain, hpaired⟩ := hcapped 2
  refine ⟨hpositive, ?_, ?_⟩
  · exact hplain.peak_eq fun c hc => hpositive c (List.mem_append_left _ hc)
  · exact hpaired.peak_eq fun c hc => hpositive c (List.mem_append_right _ hc)

end Fanout

end Coordination
