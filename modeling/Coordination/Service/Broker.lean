import Coordination.Service.BrokerUrl
import Coordination.Service.Run

/-!
# The message broker

The production transport is a broker that other processes publish through. The service
subscribes to every channel that it has a handler for before it runs.
-/

namespace Coordination

/-- What the service meets at the broker's address. -/
inductive Broker where
  | unreachable
  /-- The broker answers subscriptions with an error. -/
  | refusing
  /-- The broker accepts the subscriptions and delivers what its script says. -/
  | serving (script : Script)

/-- Why a run over the broker does not begin. -/
inductive ConnectError where
  | invalidUrl (url : String)
  | subscription
deriving DecidableEq, Repr

def ConnectError.message : ConnectError → String
  | invalidUrl url => "invalid redis url " ++ url
  | subscription => "subscribing to redis channels"

/-- Why an event was not published. -/
inductive PublishError where
  | broker
deriving DecidableEq, Repr

namespace Service

/-- Subscribes to the bus's channels. -/
def subscribe (bus : Bus World) (url : String) (broker : Broker) :
    Except ConnectError (List String × Script) :=
  if !BrokerUrl.isValid url then .error (.invalidUrl url)
  else
    match broker with
    | .unreachable | .refusing => .error .subscription
    | .serving script => .ok (bus.registry.channels, script)

/-- Runs the service over the broker at `url`. -/
def runBroker (s : Service) (bus : Bus World) (url : String) (broker : Broker) (world : World) :
    Except ConnectError ServiceReport :=
  (subscribe bus url broker).map fun (_, script) => s.runScript bus script world

end Service

/-- Publishes events through the broker: connects, and then sends each event's message. The
result lists what was published. -/
def Broker.publish (broker : Broker) (d : Deployment) (events : List Event) :
    Except PublishError (List (Except PublishError Message)) :=
  match broker with
  | .unreachable => .error .broker
  | .refusing => .ok (events.map fun _ => .error .broker)
  | .serving _ => .ok (events.map fun e => .ok (e.toMessage d))

end Coordination
