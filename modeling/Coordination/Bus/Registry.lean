import Std.Data.ExtTreeMap
import Coordination.Bus.Handler

/-!
# The handler registry

Each channel has at most one handler: the one registered last. Channels are listed in
ascending order.
-/

namespace Coordination

structure Registry (ω : Type) where
  handlers : Std.ExtTreeMap String (Handler ω) := ∅

namespace Registry

variable {ω : Type}

def register (r : Registry ω) (channel : String) (h : Handler ω) : Registry ω :=
  ⟨r.handlers.insert channel h⟩

/-- Registers handlers one after the other. -/
def ofList (entries : List (String × Handler ω)) : Registry ω :=
  entries.foldl (fun r (channel, h) => r.register channel h) {}

def handler? (r : Registry ω) (channel : String) : Option (Handler ω) := r.handlers[channel]?

def channels (r : Registry ω) : List String := r.handlers.keys

def size (r : Registry ω) : Nat := r.handlers.size

def isEmpty (r : Registry ω) : Bool := r.size == 0

theorem handler?_register (r : Registry ω) (channel c : String) (h : Handler ω) :
    (r.register channel h).handler? c = if c = channel then some h else r.handler? c := by
  unfold register handler?
  rw [Std.ExtTreeMap.getElem?_insert]
  by_cases hc : c = channel
  · simp [hc]
  · have : compare channel c ≠ .eq := fun he => hc (Std.LawfulEqOrd.eq_of_compare he).symm
    simp [hc, this]

theorem mem_channels (r : Registry ω) (channel : String) :
    channel ∈ r.channels ↔ (r.handler? channel).isSome := by
  simp [channels, handler?]

/-- No channel is listed twice. -/
theorem nodup_channels (r : Registry ω) : r.channels.Nodup := by
  simpa [channels, List.Nodup] using r.handlers.distinct_keys

@[simp] theorem length_channels (r : Registry ω) : r.channels.length = r.size := by
  simp [channels, size]

end Registry

end Coordination
