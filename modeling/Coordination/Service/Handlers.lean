import Coordination.Bus.Dispatch
import Coordination.Service.World

/-!
# The service's handlers

One handler per topic. Each reads its payload and acts on what it says. A handler that fails
leaves the world as its action left it.
-/

namespace Coordination

/-- How an invocation ends whose action fails. -/
def Failure.verdict : Failure HandlerError → Verdict
  | .error e => .error e
  | .crash text => .crash (some text)

/-- The handler that reads a payload and then acts on what was read. -/
def Handler.ofAction {α : Type} (name : String) (read : String → Except PayloadError α)
    (act : α → World.Action (List LogLine)) : Handler World where
  name
  handle payload world :=
    match read payload with
    | .error e => { world, verdict := .error (.invalidPayload e.message) }
    | .ok a =>
      match (act a).run world with
      | .ok log world => { world, log }
      | .error failure world => { world, verdict := failure.verdict }

/-- The handler of a topic. -/
def Topic.handler (room : String) : Topic → Handler World
  | .refreshStats => .ofAction "refresh_stats" Payload.parseId World.refreshStats
  | .announce => .ofAction "announce" Payload.parseId (World.announce room)
  | .restrict => .ofAction "restrict" Payload.parsePair fun (user, reason) => World.restrict user reason
  | .notify => .ofAction "notify" Payload.parsePair fun (user, message) => World.notify user message

/-- The registry that serves a deployment and announces scores in `room`. -/
def Deployment.registry (d : Deployment) (room : String) : Registry World :=
  .ofList (Topic.all.map fun topic => (d.channel topic, topic.handler room))

end Coordination
