import Mathlib.Algebra.GroupWithZero.Nat
import Coordination.Proofs.Performance.Concurrency
import Coordination.Proofs.Table

/-!
# One call after the other

A batch knows its calculator by the answers only: two calculators that answer alike, now and
later, lead to the same report (`runJobs_congr`). If one job may run at a time and each makes one
call, then each call begins when the one before it has been answered (`backToBack_computeMany`),
so a call that takes its time delays those behind it by this time and in no other way.
-/

namespace Coordination

/-! ## Calculators that answer alike -/

section Alike

variable {κ κ' : Type} [Calculator κ] [Calculator κ']

/-- Calculators that are related answer alike and stay related. -/
def AnswersAlike (R : κ → κ' → Prop) : Prop :=
  ∀ calculator calculator' request, R calculator calculator' →
    (Calculator.call calculator request).1 = (Calculator.call calculator' request).1 ∧
      R (Calculator.call calculator request).2 (Calculator.call calculator' request).2

variable {R : κ → κ' → Prop}

theorem AnswersAlike.begin (h : AnswersAlike R) (job : Job) (beatmapId : UInt32) (now : Nat)
    {calculator : κ} {calculator' : κ'} (hR : R calculator calculator') :
    (job.begin beatmapId now calculator).1 = (job.begin beatmapId now calculator').1 ∧
      R (job.begin beatmapId now calculator).2 (job.begin beatmapId now calculator').2 := by
  obtain ⟨hreal, hnext⟩ := h calculator calculator' (job.play.request beatmapId) hR
  obtain ⟨hfull, hlast⟩ := h _ _ (job.play.request beatmapId).hypothetical hnext
  obtain ⟨play, hypothetical⟩ := job
  cases hypothetical with
  | false =>
    refine ⟨?_, hnext⟩
    simp only [Job.begin, hreal, Bool.false_eq_true, if_false]
  | true =>
    refine ⟨?_, hlast⟩
    simp only [Job.begin, hreal, hfull, if_true]

/-- Two batches that differ in their calculators only, which are related. -/
inductive Batch.Alike (R : κ → κ' → Prop) : Batch κ → Batch κ' → Prop
  | intro {calculator : κ} {calculator' : κ'} (beatmapId : UInt32) (limit : Option Nat) (now : Nat)
      (waiting : List Job) (running finished : List JobRecord) (h : R calculator calculator') :
      Alike R ⟨beatmapId, limit, now, calculator, waiting, running, finished⟩
        ⟨beatmapId, limit, now, calculator', waiting, running, finished⟩

omit [Calculator κ] [Calculator κ'] in
theorem Batch.Alike.handOver {b : Batch κ} {b' : Batch κ'} (hb : Alike R b b') :
    Alike R b.handOver b'.handOver := by
  obtain ⟨beatmapId, limit, now, waiting, running, finished, hR⟩ := hb
  cases running with
  | nil => exact .intro _ _ _ _ _ _ hR
  | cons job running => exact .intro _ _ _ _ _ _ hR

theorem Batch.Alike.step (h : AnswersAlike R) {b : Batch κ} {b' : Batch κ'} (hb : Alike R b b') :
    Alike R b.step b'.step := by
  have hover := hb.handOver
  obtain ⟨beatmapId, limit, now, waiting, running, finished, hR⟩ := hb
  unfold Batch.step
  cases waiting with
  | nil => exact hover
  | cons job waiting =>
    obtain ⟨hrecord, hnext⟩ := h.begin job beatmapId now hR
    simp only [Batch.hasRoom]
    by_cases hroom : (limit.all (running.length < ·)) = true
    · simp only [hroom, if_true, hrecord]
      exact .intro _ _ _ _ _ _ hnext
    · simp only [hroom]
      exact hover

theorem Batch.Alike.steps (h : AnswersAlike R) {b : Batch κ} {b' : Batch κ'} (hb : Alike R b b')
    (n : Nat) : Alike R (b.steps n) (b'.steps n) := by
  induction n generalizing b b' with
  | zero => exact hb
  | succ n ih => exact ih (hb.step h)

/-- Calculators that answer alike lead to the same report. -/
theorem Fanout.runJobs_congr (h : AnswersAlike R) (f : Fanout) {calculator : κ}
    {calculator' : κ'} (hR : R calculator calculator') (beatmapId : UInt32) (jobs : List Job) :
    f.runJobs calculator beatmapId jobs = f.runJobs calculator' beatmapId jobs := by
  have hrun : Batch.Alike R (f.batch calculator beatmapId jobs).run
      (f.batch calculator' beatmapId jobs).run :=
    Batch.Alike.steps h (.intro _ _ _ _ _ _ hR) _
  show BatchReport.mk (f.batch calculator beatmapId jobs).run.finished =
    ⟨(f.batch calculator' beatmapId jobs).run.finished⟩
  generalize (f.batch calculator beatmapId jobs).run = b at hrun
  generalize (f.batch calculator' beatmapId jobs).run = b' at hrun
  obtain ⟨⟩ := hrun
  rfl

end Alike

/-! ## One job at a time -/

/-- How long calls take if they are made one after the other. -/
def totalDuration (cs : List CallRecord) : Nat := (cs.map fun c => c.answer.duration).sum

/-- Each call begins when those before it have been made one after the other. -/
def BackToBack (cs : List CallRecord) : Prop :=
  ∀ earlier c later, cs = earlier ++ c :: later → c.start = totalDuration earlier

theorem totalDuration_concat (cs : List CallRecord) (c : CallRecord) :
    totalDuration (cs ++ [c]) = totalDuration cs + c.answer.duration := by
  simp [totalDuration]

theorem backToBack_nil : BackToBack [] := by
  intro earlier c later h
  simp at h

theorem BackToBack.concat {cs : List CallRecord} {c : CallRecord} (h : BackToBack cs)
    (hc : c.start = totalDuration cs) : BackToBack (cs ++ [c]) := by
  intro earlier d later hsplit
  obtain ⟨rfl, rfl, rfl⟩ | ⟨rest, rfl, rfl⟩ := concat_eq_append_cons_iff.1 hsplit
  · exact hc
  · exact h earlier d rest rfl

namespace Batch

variable {κ : Type} [Calculator κ]

/-- What holds of a batch in which one job may run at a time and each makes one call. -/
structure Serial (b : Batch κ) : Prop where
  limit : b.limit = some 1
  waiting : ∀ job ∈ b.waiting, job.hypothetical = false
  calls : BackToBack b.begunCalls
  /-- Nothing runs, and the clock shows how long the calls so far have taken, or one call runs
  that has just begun. -/
  clock : (b.running = [] ∧ b.now = totalDuration b.begunCalls) ∨
    ∃ c result, b.running = [⟨[c], result⟩] ∧ c.start = b.now ∧
      totalDuration b.begunCalls = c.stop

variable {b : Batch κ}

omit [Calculator κ] in
theorem Serial.running_eq_nil (h : b.Serial) (hroom : b.hasRoom = true) :
    b.running = [] ∧ b.now = totalDuration b.begunCalls := by
  rcases h.clock with hidle | ⟨c, result, hrunning, -⟩
  · exact hidle
  · rw [hasRoom, h.limit, hrunning] at hroom
    simp at hroom

theorem Serial.step (h : b.Serial) : b.step.Serial := by
  refine b.step_cases (P := Serial) ?_ ?_ ?_
  · intro job waiting hwaiting hroom
    obtain ⟨hrunning, hnow⟩ := h.running_eq_nil hroom
    obtain ⟨hjob, hrest⟩ := List.forall_mem_cons.1 (hwaiting ▸ h.waiting)
    obtain ⟨play, hypothetical⟩ := job
    obtain rfl : hypothetical = false := hjob
    -- The job that begins makes one call.
    let answer := (Calculator.call b.calculator (play.request b.beatmapId)).1
    let c : CallRecord := ⟨play.request b.beatmapId, b.now, answer⟩
    have hcalls : (b.started ⟨play, false⟩ waiting).begunCalls = b.begunCalls ++ [c] :=
      b.begunCalls_started ⟨play, false⟩ waiting
    refine ⟨h.limit, hrest, ?_, .inr ⟨c, .of answer.settled none, ?_, rfl, ?_⟩⟩
    · rw [hcalls]
      exact h.calls.concat hnow
    · show b.running ++ _ = _
      rw [hrunning]
      rfl
    · rw [hcalls, totalDuration_concat, ← hnow]
      rfl
  · intro job running hrunning
    rcases h.clock with ⟨hidle, -⟩ | ⟨c, result, hsingle, hstart, htotal⟩
    · rw [hidle] at hrunning
      cases hrunning
    · have hcalls : (b.delivered job running).begunCalls = b.begunCalls := by
        rw [begunCalls, begunCalls, b.begun_delivered hrunning]
      rw [hsingle] at hrunning
      obtain ⟨rfl, rfl⟩ := List.cons.inj hrunning
      refine ⟨h.limit, h.waiting, by rw [hcalls]; exact h.calls, .inl ⟨rfl, ?_⟩⟩
      rw [hcalls, htotal]
      show max b.now (max 0 c.stop) = c.stop
      have hstop : b.now ≤ c.stop := by
        rw [← hstart]
        exact Nat.le_add_right _ _
      omega
  · exact fun _ _ => h

theorem Serial.steps (h : b.Serial) (n : Nat) : (b.steps n).Serial := by
  induction n generalizing b with
  | zero => exact h
  | succ n ih => exact ih h.step

end Batch

namespace Fanout

variable {κ : Type} [Calculator κ]

/-- With a limit of one, calls about plays are made one after the other. -/
theorem backToBack_computeMany (calculator : κ) (beatmapId : UInt32) (plays : List Play) :
    BackToBack ((withMaxInFlight (some 1)).computeMany calculator beatmapId plays).calls := by
  let b := (withMaxInFlight (some 1)).batch calculator beatmapId (plays.map (⟨·, false⟩))
  have hbegin : b.Serial := by
    refine ⟨rfl, ?_, backToBack_nil, .inl ⟨rfl, rfl⟩⟩
    intro job hjob
    obtain ⟨play, -, rfl⟩ := List.mem_map.1 hjob
    rfl
  rw [computeMany, calls_runJobs]
  exact (hbegin.steps _).calls

end Fanout

end Coordination
