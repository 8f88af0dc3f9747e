/-!
# Sorted ranges of code points

A character class is an array of disjoint ranges in ascending order; membership is a
binary search.  `found` is the search between two positions, with the number of
ranges as a bound on its steps.
-/

namespace Turnstile.CodeRange

/-- `code` lies in one of the ranges at positions `low` up to but not including `high`. -/
def found (ranges : Array (Nat × Nat)) (code : Nat) : Nat → Nat → Nat → Bool
  | 0, _, _ => false
  | steps + 1, low, high =>
    if high ≤ low then false
    else
      let middle := (low + high) / 2
      match ranges[middle]? with
      | none => false
      | some (first, last) =>
        if code < first then found ranges code steps low middle
        else if last < code then found ranges code steps (middle + 1) high
        else true

/-- `code` lies in one of the ranges. -/
def contains (ranges : Array (Nat × Nat)) (code : Nat) : Bool :=
  found ranges code (ranges.size + 1) 0 ranges.size

end Turnstile.CodeRange
