import Coordination.Bus.Loop
import Coordination.Bus.Playback
import Coordination.Bus.Timeline
import Coordination.Text.Quoted

/-!
# Runs of a bus

Runs over the two sources that end by themselves, with enough turns for their end, and the text
that shows a bus to a person.
-/

namespace Coordination

namespace Script

/-- Turns that see the script to its end. Each of them takes at least a millisecond or one of
the script's items, if the pace has a positive wait. -/
def turnBudget (s : Script) : Nat := s.horizon + s.length + 2

end Script

namespace Playback

/-- Turns that see the playback or its cancellation to the end. Each of them takes at least a
millisecond or an item, if the pace has a positive wait. -/
def turnBudget (p : Playback) (cancelAt : Option Nat) : Nat :=
  p.items.foldl (fun n item => n + item.1) 0 + p.items.length + cancelAt.getD 0 + 2

end Playback

namespace Bus

variable {ω : Type}

/-- Runs the bus over the in-process transport while the script is acted out. -/
def runScript (bus : Bus ω) (pace : Pace) (script : Script) (world : ω) : Run Timeline ω :=
  (Run.start bus.registry pace (Timeline.ofScript script) world bus.counters).turns bus.registry
    pace script.cancelTime? script.turnBudget

/-- Runs the bus over a playback and cancels it at the given time. -/
def runPlayback (bus : Bus ω) (pace : Pace) (source : Playback) (cancelAt : Option Nat)
    (world : ω) : Run Playback ω :=
  (Run.start bus.registry pace source world bus.counters).turns bus.registry pace cancelAt
    (source.turnBudget cancelAt)

end Bus

/-! ## Descriptions -/

def Counters.describe (c : Counters) : String :=
  s!"BusStatsSnapshot \x7b received: {c.received}, delivered: {c.delivered}, unrouted: {c.unrouted}, failed: {c.failed}, panicked: {c.panicked}, transport_errors: {c.transportErrors} \x7d"

def Pace.describe (p : Pace) : String :=
  s!"BusConfig \x7b poll_timeout: {Text.duration p.pollTimeout}, idle_delay: {Text.duration p.idleDelay} \x7d"

def Registry.describe {ω : Type} (r : Registry ω) : String :=
  s!"HandlerRegistry \x7b channels: {Text.quotedList r.channels} \x7d"

def Bus.describe {ω : Type} (bus : Bus ω) (pace : Pace) : String :=
  s!"EventBus \x7b registry: {bus.registry.describe}, config: {pace.describe}, stats: {bus.counters.describe} \x7d"

end Coordination
