import Mathlib.Data.List.Forall2
import Coordination.Proofs.Performance.Replies

/-!
# Failed calls and their scores

Two batches over the same plays get the same replies, except that some calls fail in the second
that succeed in the first. Then both ask the same, and a failed call shows in the score that it
was made for and in nothing else (`failures_stay_with_their_scores`): the call about the play
itself in its points and stars, the one about the full combo in the points at full combo. Every
failed call is reported in one warning.
-/

namespace Coordination

/-! ## Replies that fail -/

/-- Whether a call came to nothing. -/
def CallAnswer.failed (a : CallAnswer) : Bool := !a.result.isOk

theorem CallAnswer.failed_of_ok {a : CallAnswer} {r : PerformanceResult} (h : a.result = .ok r) :
    a.failed = false := by
  rw [failed, h]
  rfl

theorem CallAnswer.failed_of_error {a : CallAnswer} {e : ComputeError} (h : a.result = .error e) :
    a.failed = true := by
  rw [failed, h]
  rfl

/-- The second script gives the replies of the first, but the calls that are marked fail. Delays
may differ. -/
structure FailsInstead (failing : Nat → Bool) (p q : PreparedAnswers) : Prop where
  succeeds : ∀ n, failing n = true → ∃ r, (p.reply n).result = .ok r
  fails : ∀ n, failing n = true → ∃ e, (q.reply n).result = .error e
  same : ∀ n, failing n = false → (q.reply n).result = (p.reply n).result

/-- A result in which the points and stars of the play, or its points at full combo, are zero
because the call about them failed. -/
def ScoreResult.lacking (real full : Bool) (r : ScoreResult) : ScoreResult where
  pp := if real then 0 else r.pp
  hypotheticalPp := if full then some 0 else r.hypotheticalPp
  stars := if real then 0 else r.stars

namespace FailsInstead

variable {failing : Nat → Bool} {p q : PreparedAnswers} (h : FailsInstead failing p q)
include h

theorem settled_reply (n : Nat) :
    (q.reply n).settled = if failing n then .zero else (p.reply n).settled := by
  cases hn : failing n with
  | true =>
    obtain ⟨e, he⟩ := h.fails n hn
    simp [CallAnswer.settled, he]
  | false => simp [CallAnswer.settled, h.same n hn]

theorem failed_reply (n : Nat) : (q.reply n).failed = ((p.reply n).failed || failing n) := by
  cases hn : failing n with
  | true =>
    obtain ⟨e, he⟩ := h.fails n hn
    rw [CallAnswer.failed_of_error he, Bool.or_true]
  | false => rw [CallAnswer.failed, h.same n hn, Bool.or_false, CallAnswer.failed]

theorem not_failed_of_failing {n : Nat} (hn : failing n = true) : (p.reply n).failed = false := by
  obtain ⟨r, hr⟩ := h.succeeds n hn
  exact CallAnswer.failed_of_ok hr

theorem slot_plain (i : Nat) : q.slot false i = (p.slot false i).lacking (failing i) false := by
  simp only [PreparedAnswers.slot, h.settled_reply]
  cases failing i <;> rfl

theorem slot_paired (i : Nat) :
    q.slot true i = (p.slot true i).lacking (failing (2 * i)) (failing (2 * i + 1)) := by
  simp only [PreparedAnswers.slot, h.settled_reply]
  cases failing (2 * i) <;> cases failing (2 * i + 1) <;> rfl

/-- The calls that fail in the second script are those that fail in the first and, apart from
these, the marked ones. -/
theorem countP_failed_reply (ns : List Nat) :
    ns.countP (fun n => (q.reply n).failed) =
      ns.countP (fun n => (p.reply n).failed) + ns.countP failing := by
  induction ns with
  | nil => rfl
  | cons n ns ih =>
    rw [List.countP_cons, List.countP_cons, List.countP_cons, ih, h.failed_reply n]
    cases hn : failing n with
    | true =>
      simp [h.not_failed_of_failing hn]
      omega
    | false =>
      simp
      omega

end FailsInstead

/-! ## Warnings -/

/-- The line says that the call failed and why. -/
def CallRecord.WarnedBy (line : LogLine) (c : CallRecord) : Prop :=
  ∃ e, c.answer.result = .error e ∧ line = ⟨.warn,
    s!"Performance calculation for beatmap {c.request.beatmapId} failed, using zero: {e.message}"⟩

namespace BatchReport

variable (r : BatchReport)

/-- There is one warning for each failed call, in the order of the calls, and nothing else. -/
theorem forall₂_log :
    List.Forall₂ CallRecord.WarnedBy r.log (r.calls.filter fun c => c.answer.failed) := by
  unfold log
  induction r.calls with
  | nil => exact .nil
  | cons c calls ih =>
    rw [List.flatMap_cons]
    cases hc : c.answer.result with
    | ok result =>
      rw [List.filter_cons, CallAnswer.failed_of_ok hc, if_neg Bool.false_ne_true,
        CallAnswer.log, hc]
      exact ih
    | error e =>
      rw [List.filter_cons, CallAnswer.failed_of_error hc, if_pos rfl, CallAnswer.log, hc]
      exact .cons ⟨e, hc, rfl⟩ ih

theorem length_log : r.log.length = (r.calls.map CallRecord.answer).countP CallAnswer.failed := by
  rw [r.forall₂_log.length_eq, List.countP_map, List.countP_eq_length_filter]
  rfl

end BatchReport

/-! ## Two batches -/

namespace Fanout

/-- The second report asks the same as the first, and its results are those of the first but for
the scores whose calls about the play itself, or about the full combo, are marked. -/
structure SameBut (real full : Nat → Bool) (before after : BatchReport) : Prop where
  requests : after.requests = before.requests
  results : after.results = before.results.mapIdx fun i r => r.lacking (real i) (full i)

/-- One warning for each failed call, so that the second report has one more for each of its calls
that is marked. -/
structure WarnsMore (failing : Nat → Bool) (before after : BatchReport) : Prop where
  warnedBefore : List.Forall₂ CallRecord.WarnedBy before.log
    (before.calls.filter fun c => c.answer.failed)
  warnedAfter : List.Forall₂ CallRecord.WarnedBy after.log
    (after.calls.filter fun c => c.answer.failed)
  length : after.log.length =
    before.log.length + (List.range after.calls.length).countP failing

section

variable {failing : Nat → Bool} {p q : PreparedAnswers} {hypothetical : Bool}
  {beatmapId : UInt32} {plays : List Play} {before after : BatchReport}

theorem OneByOne.sameBut {real full : Nat → Bool}
    (hslot : ∀ i, q.slot hypothetical i = (p.slot hypothetical i).lacking (real i) (full i))
    (hbefore : OneByOne hypothetical p beatmapId plays before)
    (hafter : OneByOne hypothetical q beatmapId plays after) : SameBut real full before after := by
  refine ⟨hafter.requests.trans hbefore.requests.symm, ?_⟩
  rw [hafter.slots, hbefore.slots]
  apply List.ext_getElem
  · simp
  · intro i _ _
    simp [hslot]

theorem OneByOne.warnsMore (h : FailsInstead failing p q)
    (hbefore : OneByOne hypothetical p beatmapId plays before)
    (hafter : OneByOne hypothetical q beatmapId plays after) : WarnsMore failing before after := by
  refine ⟨before.forall₂_log, after.forall₂_log, ?_⟩
  have hlength : after.calls.length = callsPerJob hypothetical * plays.length := by
    simpa using congrArg List.length hafter.answers
  rw [after.length_log, before.length_log, hlength, hafter.answers, hbefore.answers,
    List.countP_map, List.countP_map]
  exact h.countP_failed_reply _

end

/-- Failures stay with their scores: if some calls fail instead of succeeding, the batch asks the
same, each of these calls takes the points that it was made for from its own score and nothing
else, and it is reported in one warning. -/
theorem failures_stay_with_their_scores (limit : Option Nat) {failing : Nat → Bool}
    {p q : PreparedAnswers} (h : FailsInstead failing p q) (beatmapId : UInt32)
    (plays : List Play) :
    let f := withMaxInFlight limit
    (let before := f.computeMany p beatmapId plays
    let after := f.computeMany q beatmapId plays
    SameBut failing (fun _ => false) before after ∧ WarnsMore failing before after) ∧
    (let before := f.computeManyWithHypothetical p beatmapId plays
    let after := f.computeManyWithHypothetical q beatmapId plays
    SameBut (fun i => failing (2 * i)) (fun i => failing (2 * i + 1)) before after ∧
      WarnsMore failing before after) := by
  intro f
  constructor
  · have hbefore := oneByOne_runJobs limit false p beatmapId plays
    have hafter := oneByOne_runJobs limit false q beatmapId plays
    exact ⟨hbefore.sameBut h.slot_plain hafter, hbefore.warnsMore h hafter⟩
  · have hbefore := oneByOne_runJobs limit true p beatmapId plays
    have hafter := oneByOne_runJobs limit true q beatmapId plays
    exact ⟨hbefore.sameBut h.slot_paired hafter, hbefore.warnsMore h hafter⟩

/-- Four good replies, and no more. -/
def goodReplies : PreparedAnswers where
  answers := List.replicate 4 { duration := 30, result := .ok { stars := 5.25, pp := 250.5 } }
  afterLast := { result := .error (.config "no reply") }

/-- The same replies, but a bad status in place of the second and none in place of the fourth. -/
def someBadReplies : PreparedAnswers where
  answers := goodReplies.answers.take 1 ++ [{ result := .error (.status 500) }] ++
    goodReplies.answers.take 1
  afterLast := goodReplies.afterLast

theorem failsInstead_someBadReplies :
    FailsInstead (fun n => n == 1 || n == 3) goodReplies someBadReplies := by
  constructor
  · intro n hn
    have hcases : n = 1 ∨ n = 3 := by simpa using hn
    rcases hcases with rfl | rfl
    · exact ⟨_, rfl⟩
    · exact ⟨_, rfl⟩
  · intro n hn
    have hcases : n = 1 ∨ n = 3 := by simpa using hn
    rcases hcases with rfl | rfl
    · exact ⟨_, rfl⟩
    · exact ⟨_, rfl⟩
  · intro n hn
    match n with
    | 0 | 2 => rfl
    | 1 | 3 => cases hn
    | _ + 4 => rfl

/-- Two plays, two at once. Both miss their points at full combo and nothing else. -/
theorem failures_stay_with_their_scores_two :
    let failing := fun n => n == 1 || n == 3
    let f := withMaxInFlight (some 2)
    let before := f.computeManyWithHypothetical goodReplies 75 [{}, {}]
    let after := f.computeManyWithHypothetical someBadReplies 75 [{}, {}]
    FailsInstead failing goodReplies someBadReplies ∧
      SameBut (fun i => failing (2 * i)) (fun i => failing (2 * i + 1)) before after ∧
      WarnsMore failing before after ∧ before.log.length = 0 ∧ after.log.length = 2 := by
  intro failing f before after
  have h : FailsInstead failing goodReplies someBadReplies := failsInstead_someBadReplies
  obtain ⟨-, hsame, hwarns⟩ := failures_stay_with_their_scores (some 2) h 75 [{}, {}]
  have hbefore : before.log.length = 0 := by decide +kernel
  have hcalls : after.calls.length = 4 := by decide +kernel
  refine ⟨h, hsame, hwarns, hbefore, ?_⟩
  rw [hwarns.length, hbefore, hcalls]
  rfl

end Fanout

end Coordination
