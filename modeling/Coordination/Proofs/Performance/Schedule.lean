import Coordination.Performance.Batch

/-!
# Batches end, and their order does not depend on time

A step of a batch begins the next job or hands over the oldest one (`step_cases`). Unless nothing
may ever begin, each step leaves one step less to be done, and after its run no job is left
(`done_run`). What the jobs begun so far have asked and answered, followed by what the jobs that
wait would ask and answer if they were done one after the other from here, is at all times the
same (`plan_steps`): neither the limit nor the time that calls take decides which request gets
which answer.
-/

namespace Coordination

variable {κ : Type} [Calculator κ]

/-! ## Jobs without times -/

/-- What a job has asked, what it has been answered, and its result. -/
structure Transcript where
  calls : List (PerformanceRequest × CallAnswer)
  result : ScoreResult

def JobRecord.transcript (j : JobRecord) : Transcript :=
  ⟨j.calls.map fun c => (c.request, c.answer), j.result⟩

namespace Job

variable (job : Job) (beatmapId : UInt32) (now : Nat) (calculator : κ)

theorem transcript_begin : (job.begin beatmapId now calculator).1.transcript =
    (job.begin beatmapId 0 calculator).1.transcript := by
  unfold Job.begin
  split <;> rfl

theorem calculator_begin : (job.begin beatmapId now calculator).2 =
    (job.begin beatmapId 0 calculator).2 := by
  unfold Job.begin
  split <;> rfl

end Job

/-- The transcripts of jobs that are done one after the other. -/
def transcripts (beatmapId : UInt32) : κ → List Job → List Transcript
  | _, [] => []
  | calculator, job :: jobs =>
    let begun := job.begin beatmapId 0 calculator
    begun.1.transcript :: transcripts beatmapId begun.2 jobs

namespace Batch

variable (b : Batch κ)

/-! ## One step -/

/-- The batch after its next job has begun. -/
def started (job : Job) (waiting : List Job) : Batch κ :=
  let begun := job.begin b.beatmapId b.now b.calculator
  { b with calculator := begun.2, waiting, running := b.running ++ [begun.1] }

/-- The batch after the job has been waited for and handed over. -/
def delivered (job : JobRecord) (running : List JobRecord) : Batch κ :=
  { b with now := max b.now job.stop, running, finished := b.finished ++ [job] }

/-- All that a step can do. It does nothing if there is no job, or if no job may ever begin. -/
theorem step_cases {P : Batch κ → Prop}
    (begins : ∀ job waiting, b.waiting = job :: waiting → b.hasRoom = true →
      P (b.started job waiting))
    (handsOver : ∀ job running, b.running = job :: running → P (b.delivered job running))
    (rests : b.running = [] → b.waiting = [] ∨ b.hasRoom = false → P b) : P b.step := by
  have hover (h : b.waiting = [] ∨ b.hasRoom = false) : P b.handOver := by
    unfold handOver
    cases hrunning : b.running with
    | nil => exact rests hrunning h
    | cons job running => exact handsOver job running hrunning
  unfold step
  cases hwaiting : b.waiting with
  | nil => exact hover (.inl hwaiting)
  | cons job waiting =>
    cases hroom : b.hasRoom with
    | true => exact begins job waiting hwaiting hroom
    | false => exact hover (.inr hroom)

theorem limit_step : b.step.limit = b.limit :=
  b.step_cases (P := fun c => c.limit = b.limit) (fun _ _ _ _ => rfl) (fun _ _ _ => rfl)
    fun _ _ => rfl

omit [Calculator κ] in
theorem hasRoom_of_running_eq_nil (hlimit : b.limit ≠ some 0) (h : b.running = []) :
    b.hasRoom = true := by
  unfold hasRoom
  cases hl : b.limit with
  | none => rfl
  | some n =>
    have hn : n ≠ 0 := by
      rintro rfl
      exact hlimit hl
    simp only [Option.all_some, h, List.length_nil, decide_eq_true_eq]
    omega

/-! ## The end -/

/-- How many steps are left: a job that waits has to begin and to be handed over. -/
def remaining : Nat := 2 * b.waiting.length + b.running.length

theorem remaining_step (hlimit : b.limit ≠ some 0) : b.step.remaining = b.remaining - 1 := by
  refine b.step_cases (P := fun c => c.remaining = b.remaining - 1) ?_ ?_ ?_
  · intro job waiting hwaiting _
    simp only [remaining, started, hwaiting, List.length_cons, List.length_append,
      List.length_nil]
    omega
  · intro job running hrunning
    simp only [remaining, delivered, hrunning, List.length_cons]
    omega
  · intro hrunning hstuck
    have hwaiting : b.waiting = [] := by
      rcases hstuck with h | h
      · exact h
      · rw [b.hasRoom_of_running_eq_nil hlimit hrunning] at h
        cases h
    simp [remaining, hrunning, hwaiting]

theorem remaining_steps (hlimit : b.limit ≠ some 0) (n : Nat) :
    (b.steps n).remaining = b.remaining - n := by
  induction n generalizing b with
  | zero => rfl
  | succ n ih =>
    rw [steps, ih b.step (by rwa [limit_step]), remaining_step b hlimit]
    omega

/-- No job is left, neither to begin nor to be handed over. -/
structure Done : Prop where
  waiting : b.waiting = []
  running : b.running = []

omit [Calculator κ] in
theorem done_iff : b.Done ↔ b.remaining = 0 := by
  constructor
  · rintro ⟨hwaiting, hrunning⟩
    simp [remaining, hwaiting, hrunning]
  · intro h
    unfold remaining at h
    exact ⟨List.length_eq_zero_iff.1 (by omega), List.length_eq_zero_iff.1 (by omega)⟩

/-- A run of a batch of which nothing has begun ends. -/
theorem done_run (hlimit : b.limit ≠ some 0) (hrunning : b.running = []) : b.run.Done := by
  rw [done_iff, run, remaining_steps b hlimit, remaining, hrunning]
  simp

/-! ## What stays the same -/

/-- The transcripts of the jobs that have begun, and those of the jobs that wait if they are done
one after the other from here. -/
def plan : List Transcript :=
  (b.finished ++ b.running).map JobRecord.transcript ++
    transcripts b.beatmapId b.calculator b.waiting

theorem plan_step : b.step.plan = b.plan := by
  refine b.step_cases (P := fun c => c.plan = b.plan) ?_ ?_ ?_
  · intro job waiting hwaiting _
    simp only [plan, started, hwaiting, transcripts, List.map_append, List.map_cons, List.map_nil]
    rw [job.transcript_begin, job.calculator_begin]
    simp
  · intro job running hrunning
    simp [plan, delivered, hrunning]
  · intro _ _
    rfl

theorem plan_steps (n : Nat) : (b.steps n).plan = b.plan := by
  induction n generalizing b with
  | zero => rfl
  | succ n ih => rw [steps, ih, plan_step]

/-- What a batch hands over are the jobs in their order, each with the answers that it gets if the
jobs are done one after the other. -/
theorem map_transcript_finished_run (hlimit : b.limit ≠ some 0) (hrunning : b.running = [])
    (hfinished : b.finished = []) :
    b.run.finished.map JobRecord.transcript = transcripts b.beatmapId b.calculator b.waiting := by
  obtain ⟨hwaiting', hrunning'⟩ := b.done_run hlimit hrunning
  have hplan : b.run.plan = b.plan := b.plan_steps _
  simpa [plan, transcripts, hwaiting', hrunning', hrunning, hfinished] using hplan

end Batch

/-! ## Fan-outs -/

namespace Fanout

variable (f : Fanout) (calculator : κ) (beatmapId : UInt32)

/-- The batch that a fan-out runs. -/
def batch (jobs : List Job) : Batch κ :=
  { beatmapId, limit := f.maxInFlight, calculator, waiting := jobs }

theorem maxInFlight_withMaxInFlight (limit : Option Nat) :
    (withMaxInFlight limit).maxInFlight ≠ some 0 := by
  cases limit with
  | none => exact nofun
  | some n =>
    intro h
    have : max n 1 = 0 := Option.some.inj h
    omega

theorem done_run_batch (limit : Option Nat) (jobs : List Job) :
    ((withMaxInFlight limit).batch calculator beatmapId jobs).run.Done :=
  Batch.done_run _ (maxInFlight_withMaxInFlight limit) rfl

theorem map_transcript_runJobs (limit : Option Nat) (jobs : List Job) :
    ((withMaxInFlight limit).runJobs calculator beatmapId jobs).jobs.map JobRecord.transcript =
      transcripts beatmapId calculator jobs :=
  Batch.map_transcript_finished_run ((withMaxInFlight limit).batch calculator beatmapId jobs)
    (maxInFlight_withMaxInFlight limit) rfl rfl

end Fanout

end Coordination
