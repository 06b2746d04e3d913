/-!
# Ranges of code points

A class of characters is a list of closed ranges, in increasing order.
-/

namespace HttpContract.Text

/-- Whether a code point lies in one of the ranges. -/
def inRanges (ranges : List (Nat × Nat)) (n : Nat) : Bool :=
  ranges.any fun r => r.1 ≤ n && n ≤ r.2

end HttpContract.Text
