import Coordination.Log.Basic
import Coordination.Performance.Request

/-!
# Calculators

A calculator answers one request after the other, and each call takes its time. A call that
fails counts as a result of zero and is reported.
-/

namespace Coordination

/-- Why a calculation has no result. -/
inductive ComputeError where
  | config (text : String)
  /-- There was no response. -/
  | request
  /-- The response was not a success. -/
  | status (code : Nat)
  /-- The response could not be read. -/
  | decode
deriving DecidableEq, Repr

def ComputeError.message : ComputeError → String
  | config text => "Invalid compute service configuration: " ++ text
  | request => "Request to compute service failed"
  | status code => s!"Compute service answered with status {code}"
  | decode => "Undecodable compute service response"

/-- What a call comes to, and how long it takes. -/
structure CallAnswer where
  duration : Nat := 0
  result : Except ComputeError PerformanceResult

namespace CallAnswer

/-- The result, or zero for a call that failed. -/
def settled (a : CallAnswer) : PerformanceResult :=
  match a.result with
  | .ok r => r
  | .error _ => .zero

/-- What is reported of a call about a beatmap. -/
def log (a : CallAnswer) (beatmapId : UInt32) : List LogLine :=
  match a.result with
  | .ok _ => []
  | .error e =>
    [⟨.warn, s!"Performance calculation for beatmap {beatmapId} failed, using zero: {e.message}"⟩]

end CallAnswer

/-- Answers calls in the order in which they begin. -/
class Calculator (κ : Type) where
  call : κ → PerformanceRequest → CallAnswer × κ

/-- A calculator that gives prepared answers, one per call. -/
structure PreparedAnswers where
  answers : List CallAnswer
  /-- The answer when there are no more. -/
  afterLast : CallAnswer

namespace PreparedAnswers

def call (p : PreparedAnswers) (_ : PerformanceRequest) : CallAnswer × PreparedAnswers :=
  match p.answers with
  | [] => (p.afterLast, p)
  | a :: answers => (a, { p with answers })

instance : Calculator PreparedAnswers := ⟨call⟩

end PreparedAnswers

end Coordination
