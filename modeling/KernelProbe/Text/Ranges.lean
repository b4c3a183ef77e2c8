/-!
# Ranges of code points

A property of characters given by a table: the code points of the characters that have it, as
ranges that include both ends.
-/

namespace KernelProbe.Text

/-- Whether a code point lies in one of the ranges. -/
def inRanges (ranges : List (Nat × Nat)) (n : Nat) : Bool :=
  ranges.any fun r => r.1 ≤ n && n ≤ r.2

end KernelProbe.Text
