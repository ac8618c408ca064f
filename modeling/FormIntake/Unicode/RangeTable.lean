/-!
# Range tables

A set of numbers as sorted, disjoint, inclusive ranges.
-/

namespace FormIntake.Unicode

abbrev RangeTable := List (Nat × Nat)

/-- Looks through the ranges up to the first one that starts beyond `n`. -/
def RangeTable.contains : RangeTable → Nat → Bool
  | [], _ => false
  | (low, high) :: rest, n =>
    if n < low then false else n ≤ high || contains rest n

end FormIntake.Unicode
