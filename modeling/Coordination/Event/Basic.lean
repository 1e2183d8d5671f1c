import Coordination.Event.Topic
import Coordination.Event.Payload
import Coordination.Message

/-!
# Events

An event as the service understands it, the payload that carries it and the message that is
published for it.
-/

namespace Coordination

inductive Event where
  /-- The stored stats of a player have changed. -/
  | refreshStats (user : UserId)
  /-- A score deserves to be announced. -/
  | announce (score : ScoreId)
  | restrict (user : UserId) (reason : String)
  | notify (user : UserId) (message : String)
deriving DecidableEq, Repr

namespace Event

def topic : Event → Topic
  | refreshStats _ => .refreshStats
  | announce _ => .announce
  | restrict _ _ => .restrict
  | notify _ _ => .notify

def encode : Event → String
  | refreshStats user => Payload.encodeId user
  | announce score => Payload.encodeId score
  | restrict user reason => Payload.encodePair user reason
  | notify user message => Payload.encodePair user message

def parse (topic : Topic) (payload : String) : Except PayloadError Event :=
  match topic with
  | .refreshStats => (Payload.parseId payload).map .refreshStats
  | .announce => (Payload.parseId payload).map .announce
  | .restrict => (Payload.parsePair payload).map fun (user, reason) => .restrict user reason
  | .notify => (Payload.parsePair payload).map fun (user, message) => .notify user message

/-- What is published for an event in a deployment. -/
def toMessage (deployment : Deployment) (event : Event) : Message where
  channel := deployment.channel event.topic
  payload := event.encode.toUTF8

end Event

end Coordination
