import Coordination.Performance.Batch

/-!
# The plain loop

A batch without any concurrency. Which requests are made is known in advance; they are made one
after the other, and the answers are taken up play by play.
-/

namespace Coordination.Sequential

/-- The requests about one play, the one about the play itself first. -/
def requestsOf (hypothetical : Bool) (beatmapId : UInt32) (play : Play) :
    List PerformanceRequest :=
  let request := play.request beatmapId
  if hypothetical then [request, request.hypothetical] else [request]

def requests (hypothetical : Bool) (beatmapId : UInt32) (plays : List Play) :
    List PerformanceRequest :=
  plays.flatMap (requestsOf hypothetical beatmapId)

/-- The answers to requests that are made one after the other. -/
def answers {κ : Type} [Calculator κ] : κ → List PerformanceRequest → List CallAnswer
  | _, [] => []
  | calculator, request :: rest =>
    let (answer, calculator) := Calculator.call calculator request
    answer :: answers calculator rest

/-- The results when every play has one answer. -/
def plainResults (given : List CallAnswer) : List ScoreResult :=
  given.map fun real => .of real.settled none

/-- The results when every play has two answers. -/
def pairedResults : List CallAnswer → List ScoreResult
  | real :: full :: rest => .of real.settled (some full.settled.pp) :: pairedResults rest
  | _ => []

/-- The results of the plays in order. -/
def results {κ : Type} [Calculator κ] (hypothetical : Bool) (calculator : κ)
    (beatmapId : UInt32) (plays : List Play) : List ScoreResult :=
  let given := answers calculator (requests hypothetical beatmapId plays)
  if hypothetical then pairedResults given else plainResults given

end Coordination.Sequential
