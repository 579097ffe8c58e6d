/-!
# Ranges of code points

A property of characters is given as a list of ranges of code points, both ends included.
-/

namespace Songbook.Text

/-- Whether a code point lies in one of the ranges. -/
def inRanges (ranges : List (Nat × Nat)) (n : Nat) : Bool :=
  ranges.any fun r => r.1 ≤ n && n ≤ r.2

end Songbook.Text
