import Coordination.Performance.Sequential
import Coordination.Proofs.Performance.Schedule

/-!
# Batches over prepared answers

The call that begins as the `n`-th gets the `n`-th reply. So the replies that decide about a play
are known in advance: the one with the play's own number, or the two from twice that number on if
the points at full combo are wanted too (`slot`). A batch asks what the plain loop asks and
answers what the plain loop answers to the same replies without their delays
(`computes_one_by_one`).
-/

namespace Coordination

/-- How many calls a job makes. -/
def callsPerJob (hypothetical : Bool) : Nat := if hypothetical then 2 else 1

/-- Blocks of one length, one after the other, are together as long as that. -/
theorem length_flatMap_of_length_eq {α β : Type} {f : α → List β} {l : List α} {width : Nat}
    (h : ∀ a ∈ l, (f a).length = width) : (l.flatMap f).length = width * l.length := by
  rw [List.length_flatMap, List.map_congr_left h, List.map_const', List.sum_replicate_nat,
    Nat.mul_comm]

namespace PreparedAnswers

variable (p : PreparedAnswers) (hypothetical : Bool) (beatmapId : UInt32) (n : Nat)

/-! ## Replies -/

/-- What the call that begins as the `n`-th is answered, counted from zero. -/
def reply : CallAnswer := p.answers.getD n p.afterLast

/-- What is left after so many calls. -/
def after : PreparedAnswers := { p with answers := p.answers.drop n }

theorem after_zero : p.after 0 = p := rfl

theorem call_after (request : PerformanceRequest) :
    Calculator.call (p.after n) request = (p.reply n, p.after (n + 1)) := by
  show call (p.after n) request = _
  unfold call after reply
  cases hdrop : p.answers.drop n with
  | nil =>
    have hlength : p.answers.length ≤ n := List.drop_eq_nil_iff.1 hdrop
    have hnext : p.answers.drop (n + 1) = [] := List.drop_eq_nil_iff.2 (by omega)
    simp [List.getD_eq_getElem?_getD, List.getElem?_eq_none hlength, hnext]
  | cons a rest =>
    have hget : p.answers[n]? = some a := by
      rw [← List.head?_drop, hdrop]
      rfl
    have hnext : p.answers.drop (n + 1) = rest := by
      rw [← List.drop_drop, hdrop]
      rfl
    simp [List.getD_eq_getElem?_getD, hget, hnext]

/-- The same replies at once. -/
def immediate : PreparedAnswers where
  answers := p.answers.map fun a => { a with duration := 0 }
  afterLast := { p.afterLast with duration := 0 }

theorem settled_reply_immediate : (p.immediate.reply n).settled = (p.reply n).settled := by
  simp only [reply, immediate, List.getD_eq_getElem?_getD, List.getElem?_map]
  cases p.answers[n]? <;> rfl

/-! ## What the replies make of a play -/

/-- The transcript of a play whose first call begins as the `n`-th. -/
def transcript (play : Play) : Transcript :=
  let request := play.request beatmapId
  if hypothetical then
    ⟨[(request, p.reply n), (request.hypothetical, p.reply (n + 1))],
      .of (p.reply n).settled (some (p.reply (n + 1)).settled.pp)⟩
  else ⟨[(request, p.reply n)], .of (p.reply n).settled none⟩

theorem transcripts_after_cons (play : Play) (jobs : List Job) :
    transcripts beatmapId (p.after n) (⟨play, hypothetical⟩ :: jobs) =
      p.transcript hypothetical beatmapId n play ::
        transcripts beatmapId (p.after (n + callsPerJob hypothetical)) jobs := by
  cases hypothetical <;>
    simp [transcripts, Job.begin, call_after, transcript, callsPerJob, JobRecord.transcript]

/-- Jobs that are done one after the other take their replies in turn. The plays are counted from
the first that is still to be done. -/
theorem transcripts_after (plays : List Play) (k : Nat) :
    transcripts beatmapId (p.after (callsPerJob hypothetical * k))
        (plays.map (⟨·, hypothetical⟩)) =
      (plays.zipIdx k).map fun x =>
        p.transcript hypothetical beatmapId (callsPerJob hypothetical * x.2) x.1 := by
  induction plays generalizing k with
  | nil => rfl
  | cons play plays ih =>
    rw [List.map_cons, transcripts_after_cons, ← Nat.mul_succ, ih, List.zipIdx_cons, List.map_cons]

/-- The result of the play with this number. -/
def slot (i : Nat) : ScoreResult :=
  if hypothetical then
    .of (p.reply (2 * i)).settled (some (p.reply (2 * i + 1)).settled.pp)
  else .of (p.reply i).settled none

theorem result_transcript (i : Nat) (play : Play) :
    (p.transcript hypothetical beatmapId (callsPerJob hypothetical * i) play).result =
      p.slot hypothetical i := by
  cases hypothetical with
  | false => simp [transcript, slot, callsPerJob]
  | true => rfl

theorem replies_transcript (play : Play) :
    (p.transcript hypothetical beatmapId n play).calls.map Prod.snd =
      (List.range' n (callsPerJob hypothetical)).map p.reply := by
  cases hypothetical <;> rfl

theorem slot_immediate (i : Nat) : p.immediate.slot hypothetical i = p.slot hypothetical i := by
  simp only [slot, settled_reply_immediate]

end PreparedAnswers

/-! ## The plain loop -/

namespace Sequential

variable (p : PreparedAnswers) (hypothetical : Bool) (beatmapId : UInt32) (plays : List Play)

theorem answers_after (n : Nat) (asked : List PerformanceRequest) :
    answers (p.after n) asked = (List.range' n asked.length).map p.reply := by
  induction asked generalizing n with
  | nil => rfl
  | cons request rest ih =>
    simp only [answers, p.call_after]
    rw [ih, List.length_cons, List.range'_succ, List.map_cons]

theorem length_requests :
    (requests hypothetical beatmapId plays).length = callsPerJob hypothetical * plays.length := by
  refine length_flatMap_of_length_eq fun play _ => ?_
  cases hypothetical <;> rfl

theorem requests_transcripts {κ : Type} [Calculator κ] (calculator : κ) :
    ((transcripts beatmapId calculator (plays.map (⟨·, hypothetical⟩))).map fun t =>
        t.calls.map Prod.fst) =
      plays.map (requestsOf hypothetical beatmapId) := by
  induction plays generalizing calculator with
  | nil => rfl
  | cons play plays ih =>
    have hplay : (Job.begin ⟨play, hypothetical⟩ beatmapId 0 calculator).1.transcript.calls.map
        Prod.fst = requestsOf hypothetical beatmapId play := by
      cases hypothetical <;> rfl
    rw [List.map_cons, List.map_cons, transcripts, List.map_cons, hplay, ih]

theorem pairedResults_range' (k n : Nat) :
    pairedResults ((List.range' k (2 * n)).map p.reply) = (List.range n).map fun i =>
      .of (p.reply (k + 2 * i)).settled (some (p.reply (k + 2 * i + 1)).settled.pp) := by
  induction n generalizing k with
  | zero => rfl
  | succ n ih =>
    rw [Nat.mul_succ, List.range'_succ, List.range'_succ, List.map_cons, List.map_cons,
      pairedResults, ih, List.range_succ_eq_map, List.map_cons, List.map_map]
    congr 1
    refine List.map_congr_left fun i _ => ?_
    simp only [Function.comp_apply]
    rw [show k + 1 + 1 + 2 * i = k + 2 * i.succ by omega]

theorem results_eq_slots :
    results hypothetical p beatmapId plays =
      (List.range plays.length).map (p.slot hypothetical) := by
  have hanswers : answers p (requests hypothetical beatmapId plays) =
      (List.range' 0 (callsPerJob hypothetical * plays.length)).map p.reply := by
    rw [← length_requests, ← answers_after, p.after_zero]
  rw [results, hanswers]
  cases hypothetical with
  | false => simp [plainResults, PreparedAnswers.slot, callsPerJob, List.range_eq_range']
  | true =>
    rw [if_pos rfl, callsPerJob, if_pos rfl, pairedResults_range']
    simp [PreparedAnswers.slot]

end Sequential

/-! ## Reports -/

/-- Ranges of one length, each beginning where the one before ends. -/
theorem flatMap_zipIdx_range' {α : Type} (l : List α) (width k : Nat) :
    (l.zipIdx k).flatMap (fun x => List.range' (width * x.2) width) =
      List.range' (width * k) (width * l.length) := by
  induction l generalizing k with
  | nil => rfl
  | cons a l ih =>
    rw [List.zipIdx_cons, List.flatMap_cons, ih, Nat.mul_succ width k, List.range'_append_1,
      List.length_cons, Nat.mul_succ, Nat.add_comm]

namespace BatchReport

variable (r : BatchReport)

theorem requests_eq :
    r.requests = (r.jobs.map fun job => job.calls.map CallRecord.request).flatten := by
  simp [requests, calls, List.flatMap_def, List.map_flatten, Function.comp_def]

theorem answers_eq : r.calls.map CallRecord.answer =
    ((r.jobs.map JobRecord.transcript).map fun t => t.calls.map Prod.snd).flatten := by
  simp [calls, JobRecord.transcript, List.flatMap_def, List.map_flatten, Function.comp_def]

theorem results_eq : r.results = (r.jobs.map JobRecord.transcript).map Transcript.result := by
  simp [results, JobRecord.transcript]

end BatchReport

namespace Fanout

/-- Whatever the calculator and the limit, every play is one job, in the order of the plays, and
asks what the plain loop asks about it. -/
theorem asked_runJobs {κ : Type} [Calculator κ] (calculator : κ) (beatmapId : UInt32)
    (limit : Option Nat) (hypothetical : Bool) (plays : List Play) :
    (((withMaxInFlight limit).runJobs calculator beatmapId
        (plays.map (⟨·, hypothetical⟩))).jobs.map fun job => job.calls.map CallRecord.request) =
      plays.map (Sequential.requestsOf hypothetical beatmapId) := by
  rw [← Sequential.requests_transcripts hypothetical beatmapId plays calculator,
    ← map_transcript_runJobs calculator beatmapId limit, List.map_map]
  refine List.map_congr_left fun job _ => ?_
  simp [JobRecord.transcript]

section

variable (limit : Option Nat) (hypothetical : Bool) (p : PreparedAnswers) (beatmapId : UInt32)
  (plays : List Play)

theorem map_transcript_plays :
    ((withMaxInFlight limit).runJobs p beatmapId
        (plays.map (⟨·, hypothetical⟩))).jobs.map JobRecord.transcript =
      plays.zipIdx.map fun x =>
        p.transcript hypothetical beatmapId (callsPerJob hypothetical * x.2) x.1 := by
  rw [map_transcript_runJobs]
  exact p.transcripts_after hypothetical beatmapId plays 0

/-- A report says what the plain loop says to the same replies. -/
structure OneByOne (report : BatchReport) : Prop where
  /-- Every play is one job, in the order of the plays, and asks what is wanted of it. -/
  jobs : (report.jobs.map fun job => job.calls.map CallRecord.request) =
    plays.map (Sequential.requestsOf hypothetical beatmapId)
  requests : report.requests = Sequential.requests hypothetical beatmapId plays
  /-- The calls get the replies in their order. -/
  answers : report.calls.map CallRecord.answer =
    (List.range (callsPerJob hypothetical * plays.length)).map p.reply
  /-- Delays are not among what the results depend on. -/
  results : report.results = Sequential.results hypothetical p.immediate beatmapId plays
  /-- Each result comes from the replies to its own play. -/
  slots : report.results = (List.range plays.length).map (p.slot hypothetical)
  length : report.results.length = plays.length

theorem oneByOne_runJobs : OneByOne hypothetical p beatmapId plays
    ((withMaxInFlight limit).runJobs p beatmapId (plays.map (⟨·, hypothetical⟩))) := by
  have htranscripts := map_transcript_plays limit hypothetical p beatmapId plays
  have hasked := asked_runJobs p beatmapId limit hypothetical plays
  generalize (withMaxInFlight limit).runJobs p beatmapId
    (plays.map (⟨·, hypothetical⟩)) = report at htranscripts hasked
  have hslots : report.results = (List.range plays.length).map (p.slot hypothetical) := by
    rw [report.results_eq, htranscripts, List.map_map]
    calc plays.zipIdx.map _ = plays.zipIdx.map (p.slot hypothetical ∘ Prod.snd) :=
          List.map_congr_left fun x _ => p.result_transcript hypothetical beatmapId x.2 x.1
      _ = (List.range plays.length).map (p.slot hypothetical) := by
          rw [← List.map_map, List.zipIdx_map_snd, List.range_eq_range']
  have hanswers : ((report.jobs.map JobRecord.transcript).map fun t => t.calls.map Prod.snd) =
      plays.zipIdx.map fun x => (List.range' (callsPerJob hypothetical * x.2)
        (callsPerJob hypothetical)).map p.reply := by
    rw [htranscripts, List.map_map]
    exact List.map_congr_left fun x _ => p.replies_transcript hypothetical beatmapId _ x.1
  refine ⟨hasked, ?_, ?_, ?_, hslots, ?_⟩
  · rw [report.requests_eq, hasked]
    rfl
  · have hblocks := flatMap_zipIdx_range' plays (callsPerJob hypothetical) 0
    rw [report.answers_eq, hanswers, ← List.flatMap_def, ← List.map_flatMap, hblocks,
      List.range_eq_range', Nat.mul_zero]
  · rw [hslots, Sequential.results_eq_slots]
    exact List.map_congr_left fun i _ => (p.slot_immediate hypothetical i).symm
  · rw [hslots, List.length_map, List.length_range]

end

/-- A fan-out is a plain loop: for any limit and whatever time the calls take, a batch ends, and
it asks what the loop asks that does one play after the other, in the same order, and says what
the loop says to the same replies without any delay. -/
theorem computes_one_by_one (limit : Option Nat) (p : PreparedAnswers) (beatmapId : UInt32)
    (plays : List Play) :
    let f := withMaxInFlight limit
    let plain := (f.batch p beatmapId (plays.map (⟨·, false⟩))).run
    let paired := (f.batch p beatmapId (plays.map (⟨·, true⟩))).run
    (plain.Done ∧ f.computeMany p beatmapId plays = ⟨plain.finished⟩ ∧
      OneByOne false p beatmapId plays (f.computeMany p beatmapId plays)) ∧
    (paired.Done ∧ f.computeManyWithHypothetical p beatmapId plays = ⟨paired.finished⟩ ∧
      OneByOne true p beatmapId plays (f.computeManyWithHypothetical p beatmapId plays)) := by
  intro f plain paired
  refine ⟨⟨?_, rfl, ?_⟩, ?_, rfl, ?_⟩
  · exact done_run_batch p beatmapId limit (plays.map (⟨·, false⟩))
  · exact oneByOne_runJobs limit false p beatmapId plays
  · exact done_run_batch p beatmapId limit (plays.map (⟨·, true⟩))
  · exact oneByOne_runJobs limit true p beatmapId plays

end Fanout

end Coordination
