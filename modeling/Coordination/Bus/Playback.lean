import Coordination.Bus.Source

/-!
# Playbacks

A source that plays a list of arrivals. Each is available a given time after the one before it
was taken; after the last one the source is closed.
-/

namespace Coordination

structure Playback where
  /-- What is still to be played, and how long after the previous arrival. -/
  items : List (Nat × Arrival) := []

namespace Playback

/-- A wait that is too short for the next arrival counts towards it. -/
def recv (p : Playback) (limit : Nat) : Reception Playback :=
  match p.items with
  | [] => ⟨0, .closed, p⟩
  | (after, arrival) :: rest =>
    if limit ≤ after then ⟨limit, .nothing, ⟨(after - limit, arrival) :: rest⟩⟩
    else ⟨after, arrival, ⟨rest⟩⟩

instance : Source Playback := ⟨fun p _ limit => p.recv limit⟩

end Playback

end Coordination
