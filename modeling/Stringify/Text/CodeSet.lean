/-!
# Sets of code points

A property of code points is a union of ranges. `CodeSet` stores only the points where membership
flips, in increasing order, so a code point belongs to the set when an odd number of flips lie at or
below it.
-/

namespace Stringify.Text

/-- A set of code points, given by the increasing points where membership flips. -/
structure CodeSet where
  flips : Array Nat

namespace CodeSet

/-- The number of flips at or below `code` among those from `low` up to but not including `high`,
plus `low`: halving the gap, which at most `steps` halvings close. -/
def countWithin (flips : Array Nat) (code : Nat) : (steps low high : Nat) → Nat
  | 0, low, _ => low
  | steps + 1, low, high =>
    if low < high then
      let middle := (low + high) / 2
      if flips.getD middle 0 ≤ code then countWithin flips code steps (middle + 1) high
      else countWithin flips code steps low middle
    else low

/-- The number of flips at or below `code`. -/
def count (set : CodeSet) (code : Nat) : Nat :=
  countWithin set.flips code set.flips.size 0 set.flips.size

/-- Whether `code` belongs to the set. -/
def contains (set : CodeSet) (code : Nat) : Bool :=
  set.count code % 2 == 1

end CodeSet

end Stringify.Text
