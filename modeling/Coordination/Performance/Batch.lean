import Coordination.Performance.Calculator

/-!
# Batches

A batch calculates many plays of one beatmap at once and answers in the order of the plays.
Each play is a job of one call, or of two calls that are made together if the points at full
combo are wanted too. Jobs begin in order. A limit bounds how many jobs have begun and not yet
been handed over; a job is handed over when it has ended and all before it have been.

The batch is a state and `step` takes it one step further: either the next job begins, or the
oldest running job is waited for and handed over.
-/

namespace Coordination

/-- A call as it was made. -/
structure CallRecord where
  request : PerformanceRequest
  start : Nat
  answer : CallAnswer

def CallRecord.stop (c : CallRecord) : Nat := c.start + c.answer.duration

/-- What a job wants to know. -/
structure Job where
  play : Play
  /-- Whether the points at full combo are wanted too. -/
  hypothetical : Bool

/-- A job that has begun. -/
structure JobRecord where
  /-- The calls in the order in which they were made. -/
  calls : List CallRecord
  result : ScoreResult

/-- When the last of the job's calls ends. -/
def JobRecord.stop (j : JobRecord) : Nat := j.calls.foldl (fun t c => max t c.stop) 0

section

variable {κ : Type} [Calculator κ]

/-- Begins a job: makes all of its calls, the one about the play itself first. -/
def Job.begin (job : Job) (beatmapId : UInt32) (now : Nat) (calculator : κ) : JobRecord × κ :=
  let request := job.play.request beatmapId
  let (real, calculator) := Calculator.call calculator request
  let first : CallRecord := ⟨request, now, real⟩
  if job.hypothetical then
    let fullCombo := request.hypothetical
    let (full, calculator) := Calculator.call calculator fullCombo
    (⟨[first, ⟨fullCombo, now, full⟩], .of real.settled (some full.settled.pp)⟩, calculator)
  else (⟨[first], .of real.settled none⟩, calculator)

structure Batch (κ : Type) where
  beatmapId : UInt32
  /-- How many jobs may run at once. -/
  limit : Option Nat
  now : Nat := 0
  calculator : κ
  /-- Jobs that have not begun. -/
  waiting : List Job
  /-- Jobs that have begun, oldest first. -/
  running : List JobRecord := []
  /-- Jobs that have been handed over, in order. -/
  finished : List JobRecord := []

namespace Batch

/-- Whether one more job may begin. -/
def hasRoom (b : Batch κ) : Bool := b.limit.all (b.running.length < ·)

/-- Waits for the oldest running job. -/
def handOver (b : Batch κ) : Batch κ :=
  match b.running with
  | [] => b
  | job :: running =>
    { b with now := max b.now job.stop, running, finished := b.finished ++ [job] }

/-- One step: a job begins if there is one and there is room for it. -/
def step (b : Batch κ) : Batch κ :=
  match b.waiting with
  | [] => b.handOver
  | job :: waiting =>
    if b.hasRoom then
      let (record, calculator) := job.begin b.beatmapId b.now b.calculator
      { b with calculator, waiting, running := b.running ++ [record] }
    else b.handOver

def steps : Nat → Batch κ → Batch κ
  | 0, b => b
  | n + 1, b => steps n b.step

/-- Runs the batch. Each job takes two steps. -/
def run (b : Batch κ) : Batch κ := b.steps (2 * b.waiting.length)

end Batch

end

/-! ## What a batch leaves behind -/

structure BatchReport where
  jobs : List JobRecord

namespace BatchReport

def results (r : BatchReport) : List ScoreResult := r.jobs.map JobRecord.result

/-- The calls in the order in which they began. -/
def calls (r : BatchReport) : List CallRecord := r.jobs.flatMap JobRecord.calls

def requests (r : BatchReport) : List PerformanceRequest := r.calls.map CallRecord.request

/-- One line per failed call. -/
def log (r : BatchReport) : List LogLine :=
  r.calls.flatMap fun c => c.answer.log c.request.beatmapId

/-- How many of the calls are in flight when the last of them begins. -/
def inFlight (earlier : List CallRecord) (c : CallRecord) : Nat :=
  earlier.countP (fun e => c.start < e.stop) + 1

/-- The most calls in flight at once, which is reached when a call begins. `earlier` began
before those in the list. -/
def peakFrom (earlier : List CallRecord) : List CallRecord → Nat
  | [] => 0
  | c :: rest => max (inFlight earlier c) (peakFrom (c :: earlier) rest)

def peak (r : BatchReport) : Nat := peakFrom [] r.calls

end BatchReport

/-- Computes batches, with at most so many jobs at once. -/
structure Fanout where
  maxInFlight : Option Nat := none
deriving DecidableEq, Repr

namespace Fanout

/-- A limit of zero would let nothing begin, so the least limit is one. -/
def withMaxInFlight (limit : Option Nat) : Fanout := ⟨limit.map fun n => max n 1⟩

def describe (f : Fanout) : String :=
  let limit := match f.maxInFlight with
    | none => "None"
    | some n => s!"Some({n})"
  s!"PerformanceFanout \x7b max_in_flight: {limit}, .. \x7d"

variable {κ : Type} [Calculator κ]

def runJobs (f : Fanout) (calculator : κ) (beatmapId : UInt32) (jobs : List Job) : BatchReport :=
  let b : Batch κ := { beatmapId, limit := f.maxInFlight, calculator, waiting := jobs }
  ⟨b.run.finished⟩

/-- Points and stars of every play. -/
def computeMany (f : Fanout) (calculator : κ) (beatmapId : UInt32) (plays : List Play) :
    BatchReport :=
  f.runJobs calculator beatmapId (plays.map (⟨·, false⟩))

/-- Points, points at full combo and stars of every play. -/
def computeManyWithHypothetical (f : Fanout) (calculator : κ) (beatmapId : UInt32)
    (plays : List Play) : BatchReport :=
  f.runJobs calculator beatmapId (plays.map (⟨·, true⟩))

/-- Points, points at full combo and stars of one play. No limit applies. -/
def computeOne (calculator : κ) (beatmapId : UInt32) (play : Play) : BatchReport :=
  ⟨[(Job.begin ⟨play, true⟩ beatmapId 0 calculator).1]⟩

end Fanout

end Coordination
