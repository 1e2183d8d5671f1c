import Coordination.Proofs.Performance.Replies

/-!
# Full combos

A batch in which the points at full combo are wanted too makes two calls for each play. If the
answer to a call depends on the request only, its results are those of two plain batches put
together: one over the plays, and one over the same plays at full combo
(`hypothetical_is_two_batches`). When calls begin and how long they take does not matter then.
-/

namespace Coordination

/-- The play without a break in its combo and without a miss. -/
def Play.atFullCombo (play : Play) : Play := { play with combo := none, misses := some 0 }

/-- Asking about the play at full combo is asking for the points at full combo. -/
theorem Play.request_atFullCombo (play : Play) (beatmapId : UInt32) :
    play.atFullCombo.request beatmapId = (play.request beatmapId).hypothetical := rfl

/-! ## Formulas -/

/-- What is answered, or why nothing is, by the request alone. -/
abbrev Formula := PerformanceRequest → Except ComputeError PerformanceResult

namespace Formula

variable (formula : Formula) (beatmapId : UInt32) (play : Play)

/-- The result, or zero if there is none. -/
def settled (request : PerformanceRequest) : PerformanceResult :=
  CallAnswer.settled { result := formula request }

/-- What a batch says about a play. -/
def resultOf (hypothetical : Bool) : ScoreResult :=
  let request := play.request beatmapId
  .of (formula.settled request)
    (if hypothetical then some (formula.settled request.hypothetical).pp else none)

/-- The calculator answers by the formula, whatever it has been asked before. The time that it
takes may depend on anything. -/
def AnswersFor (κ : Type) [Calculator κ] : Prop :=
  ∀ (calculator : κ) request, (Calculator.call calculator request).1.result = formula request

variable {formula} {κ : Type} [Calculator κ]

theorem AnswersFor.settled_call (h : formula.AnswersFor κ) (calculator : κ)
    (request : PerformanceRequest) :
    (Calculator.call calculator request).1.settled = formula.settled request := by
  rw [CallAnswer.settled, h, settled, CallAnswer.settled]

theorem AnswersFor.result_begin (h : formula.AnswersFor κ) (calculator : κ) (hypothetical : Bool)
    (now : Nat) : (Job.begin ⟨play, hypothetical⟩ beatmapId now calculator).1.result =
      formula.resultOf beatmapId play hypothetical := by
  cases hypothetical with
  | false =>
    show ScoreResult.of (Calculator.call calculator _).1.settled none = _
    rw [h.settled_call]
    rfl
  | true =>
    show ScoreResult.of (Calculator.call calculator _).1.settled
      (some (Calculator.call _ _).1.settled.pp) = _
    rw [h.settled_call, h.settled_call]
    rfl

theorem AnswersFor.results_transcripts (h : formula.AnswersFor κ) (calculator : κ)
    (hypothetical : Bool) (plays : List Play) :
    (transcripts beatmapId calculator (plays.map (⟨·, hypothetical⟩))).map Transcript.result =
      plays.map (formula.resultOf beatmapId · hypothetical) := by
  induction plays generalizing calculator with
  | nil => rfl
  | cons play plays ih =>
    rw [List.map_cons, transcripts, List.map_cons, List.map_cons, ih]
    congr 1
    exact h.result_begin beatmapId play calculator hypothetical 0

theorem AnswersFor.results_runJobs (h : formula.AnswersFor κ) (calculator : κ)
    (limit : Option Nat) (hypothetical : Bool) (plays : List Play) :
    ((Fanout.withMaxInFlight limit).runJobs calculator beatmapId
        (plays.map (⟨·, hypothetical⟩))).results =
      plays.map (formula.resultOf beatmapId · hypothetical) := by
  rw [BatchReport.results_eq, Fanout.map_transcript_runJobs, h.results_transcripts]

end Formula

namespace Fanout

/-- The result of a play with the points of another one as those at full combo. -/
def withFullCombo (real full : ScoreResult) : ScoreResult :=
  { real with hypotheticalPp := some full.pp }

/-- What is said about a play with its points at full combo is said about two plays without. -/
theorem withFullCombo_resultOf (formula : Formula) (beatmapId : UInt32) (play : Play) :
    withFullCombo (formula.resultOf beatmapId play false)
        (formula.resultOf beatmapId play.atFullCombo false) =
      formula.resultOf beatmapId play true := by
  simp only [Formula.resultOf, play.request_atFullCombo]
  rfl

/-- A batch with points at full combo is two plain batches. If the calculator's answers depend on
the requests only, its results are, play by play, the points and stars of a plain batch over the
plays, and as points at full combo the points of a plain batch over the plays at full combo. The
three batches may have any limits, and their calls may take any time. One play alone is a batch
of one play. -/
theorem hypothetical_is_two_batches {κ : Type} [Calculator κ] {formula : Formula}
    (h : formula.AnswersFor κ) (beatmapId : UInt32) :
    (∀ (plays : List Play) (limit limit₁ limit₂ : Option Nat)
        (calculator calculator₁ calculator₂ : κ),
      let paired := (withMaxInFlight limit).computeManyWithHypothetical calculator beatmapId plays
      let real := (withMaxInFlight limit₁).computeMany calculator₁ beatmapId plays
      let full := (withMaxInFlight limit₂).computeMany calculator₂ beatmapId
        (plays.map Play.atFullCombo)
      real.results.length = plays.length ∧ full.results.length = plays.length ∧
        paired.results = List.zipWith withFullCombo real.results full.results) ∧
    ∀ (play : Play) (limit : Option Nat) (calculator calculator' : κ),
      ∃ result, (computeOne calculator beatmapId play).results = [result] ∧
        ((withMaxInFlight limit).computeManyWithHypothetical calculator' beatmapId [play]).results =
          [result] := by
  constructor
  · intro plays limit limit₁ limit₂ calculator calculator₁ calculator₂ paired real full
    have hpaired := h.results_runJobs beatmapId calculator limit true plays
    have hreal := h.results_runJobs beatmapId calculator₁ limit₁ false plays
    have hfull := h.results_runJobs beatmapId calculator₂ limit₂ false (plays.map Play.atFullCombo)
    refine ⟨?_, ?_, ?_⟩
    · exact (congrArg List.length hreal).trans (List.length_map _)
    · exact (congrArg List.length hfull).trans (by rw [List.length_map, List.length_map])
    · calc paired.results = plays.map (formula.resultOf beatmapId · true) := hpaired
        _ = List.zipWith withFullCombo (plays.map (formula.resultOf beatmapId · false))
              ((plays.map Play.atFullCombo).map (formula.resultOf beatmapId · false)) := by
          rw [List.map_map, List.zipWith_map, List.zipWith_self]
          exact List.map_congr_left fun play _ =>
            (withFullCombo_resultOf formula beatmapId play).symm
        _ = List.zipWith withFullCombo real.results full.results := by
          rw [← hreal, ← hfull]
          rfl
  · intro play limit calculator calculator'
    refine ⟨formula.resultOf beatmapId play true, ?_, ?_⟩
    · exact congrArg (fun r => [r]) (h.result_begin beatmapId play calculator true 0)
    · exact h.results_runJobs beatmapId calculator' limit true [play]

/-- Answers by a formula, after one delay each and at once when there are no more of them. -/
structure TimedFormula (formula : Formula) where
  delays : List Nat

instance (formula : Formula) : Calculator (TimedFormula formula) where
  call c request := (⟨c.delays.headD 0, formula request⟩, ⟨c.delays.tail⟩)

theorem answersFor_timedFormula (formula : Formula) :
    formula.AnswersFor (TimedFormula formula) := fun _ _ => rfl

/-- A thousand more points at full combo, and no answer about a play with three misses. -/
def fullComboPays : Formula := fun request =>
  match request.missCount with
  | some 3 => .error (.status 500)
  | some 0 => .ok { stars := 5.25, pp := 1250.5 }
  | _ => .ok { stars := 5.25, pp := 250.5 }

/-- Three plays, one after the other in the first batch and two at once in the third, with other
delays each time. The call about the second play fails, that about its full combo does not. -/
theorem hypothetical_is_two_batches_failing :
    let plays : List Play := [{ combo := some 100, misses := some 1 },
      { combo := some 150, misses := some 3 }, { misses := some 0 }]
    let paired := (withMaxInFlight (some 0)).computeManyWithHypothetical
      (⟨[30, 10, 20]⟩ : TimedFormula fullComboPays) 75 plays
    let real := (withMaxInFlight none).computeMany
      (⟨[5]⟩ : TimedFormula fullComboPays) 75 plays
    let full := (withMaxInFlight (some 2)).computeMany
      (⟨[7, 40]⟩ : TimedFormula fullComboPays) 75 (plays.map Play.atFullCombo)
    fullComboPays.AnswersFor (TimedFormula fullComboPays) ∧
      paired.results = List.zipWith withFullCombo real.results full.results ∧
      paired.results = [⟨250.5, some 1250.5, 5.25⟩, ⟨0, some 1250.5, 0⟩,
        ⟨1250.5, some 1250.5, 5.25⟩] := by
  intro plays paired real full
  have h : fullComboPays.AnswersFor (TimedFormula fullComboPays) :=
    answersFor_timedFormula fullComboPays
  obtain ⟨hbatches, -⟩ := hypothetical_is_two_batches h 75
  obtain ⟨-, -, hpaired⟩ := hbatches plays (some 0) none (some 2) ⟨[30, 10, 20]⟩ ⟨[5]⟩ ⟨[7, 40]⟩
  exact ⟨h, hpaired, h.results_runJobs 75 _ (some 0) true plays⟩

end Fanout

end Coordination
