import Coordination.Bus.Outcome

/-!
# Counters

How many messages were received, what became of them, and how often receiving itself went
wrong.
-/

namespace Coordination

/-- One of the counters of a bus. -/
inductive Counter where
  | received
  | delivered
  | unrouted
  | failed
  | panicked
  | transportErrors
deriving DecidableEq, Repr

/-- The counters in the order in which a snapshot loads them. -/
def Counter.all : List Counter := [received, delivered, unrouted, failed, panicked, transportErrors]

/-- The counter of an outcome's kind. -/
def Outcome.counter (o : Outcome) : Counter :=
  match o.fate with
  | .unrouted => .unrouted
  | .delivered _ => .delivered
  | .failed _ _ => .failed
  | .panicked _ _ => .panicked

structure Counters where
  received : Nat := 0
  delivered : Nat := 0
  unrouted : Nat := 0
  failed : Nat := 0
  panicked : Nat := 0
  transportErrors : Nat := 0
deriving DecidableEq, Repr

namespace Counters

def failures (c : Counters) : Nat := c.failed + c.panicked

/-- Counts one dispatched message. -/
def record (c : Counters) (o : Outcome) : Counters :=
  let c := { c with received := c.received + 1 }
  match o.fate with
  | .unrouted => { c with unrouted := c.unrouted + 1 }
  | .delivered _ => { c with delivered := c.delivered + 1 }
  | .failed _ _ => { c with failed := c.failed + 1 }
  | .panicked _ _ => { c with panicked := c.panicked + 1 }

def recordTransportError (c : Counters) : Counters :=
  { c with transportErrors := c.transportErrors + 1 }

/-! ## Counter by counter -/

def get (c : Counters) : Counter → Nat
  | .received => c.received
  | .delivered => c.delivered
  | .unrouted => c.unrouted
  | .failed => c.failed
  | .panicked => c.panicked
  | .transportErrors => c.transportErrors

def set (c : Counters) (n : Nat) : Counter → Counters
  | .received => { c with received := n }
  | .delivered => { c with delivered := n }
  | .unrouted => { c with unrouted := n }
  | .failed => { c with failed := n }
  | .panicked => { c with panicked := n }
  | .transportErrors => { c with transportErrors := n }

/-- Adds one to a counter. -/
def bump (c : Counters) (k : Counter) : Counters := c.set (c.get k + 1) k

@[simp] theorem get_set (c : Counters) (n : Nat) (k j : Counter) :
    (c.set n k).get j = if j = k then n else c.get j := by
  cases k <;> cases j <;> rfl

@[simp] theorem get_bump (c : Counters) (k j : Counter) :
    (c.bump k).get j = c.get j + if j = k then 1 else 0 := by
  cases k <;> cases j <;> rfl

/-- A message is counted as received, and then under its kind. -/
theorem record_eq_bump (c : Counters) (o : Outcome) :
    c.record o = (c.bump .received).bump o.counter := by
  obtain ⟨channel, fate⟩ := o
  cases fate <;> rfl

theorem recordTransportError_eq_bump (c : Counters) :
    c.recordTransportError = c.bump .transportErrors := rfl

end Counters

end Coordination
