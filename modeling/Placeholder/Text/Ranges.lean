/-! # Ranges of code points

Properties of characters are kept as lists of closed ranges of code points.
-/

namespace Placeholder.Text

/-- Whether one of the ranges holds a code point. -/
def inRanges (ranges : List (Nat × Nat)) (n : Nat) : Bool :=
  ranges.any fun (first, last) => first ≤ n && n ≤ last

end Placeholder.Text
