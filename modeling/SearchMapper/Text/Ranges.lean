/-!
# Ranges of code points

A property of characters is kept as the inclusive ranges of code points that have it.
-/

namespace SearchMapper.Text

/-- The code point lies in one of the inclusive ranges. -/
def inRanges (ranges : List (Nat × Nat)) (n : Nat) : Bool :=
  ranges.any fun (first, last) => first ≤ n && n ≤ last

end SearchMapper.Text
