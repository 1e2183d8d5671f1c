/-!
# Classes of characters

A class of characters is kept as a table of ranges of code points.
-/

namespace Coordination.Text

/-- Whether `n` lies in one of the ranges, ends included. -/
def inRanges (ranges : Array (Nat × Nat)) (n : Nat) : Bool :=
  ranges.any fun (low, high) => low ≤ n && n ≤ high

end Coordination.Text
