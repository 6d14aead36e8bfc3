/-!
# Ranges of characters

Classes of characters as ascending lists of code point ranges.

## Main definitions

* `DesignGraph.CharRange.contains` — membership of a code point in a list of ranges.

## Main results

* `DesignGraph.CharRange.contains_iff` — membership means lying in one of the ranges.
-/

namespace DesignGraph.CharRange

/-- Whether one of the ranges, each given by its first and last code point, holds `code`. -/
def contains (ranges : List (Nat × Nat)) (code : Nat) : Bool :=
  ranges.any fun range => range.1 ≤ code && code ≤ range.2

/-- Membership means lying in one of the ranges. -/
theorem contains_iff (ranges : List (Nat × Nat)) (code : Nat) :
    contains ranges code = true ↔ ∃ range ∈ ranges, range.1 ≤ code ∧ code ≤ range.2 := by
  simp [contains]

end DesignGraph.CharRange
