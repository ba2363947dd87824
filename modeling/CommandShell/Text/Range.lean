/-!
# Ranges of code points

A property of characters is given as a list of closed intervals of code points.

* `Text.inRanges` : whether a code point is in one of them.
-/

namespace CommandShell.Text

/-- Whether a code point is in one of some closed intervals. -/
def inRanges (ranges : List (Nat × Nat)) (n : Nat) : Bool :=
  ranges.any fun (low, high) => low ≤ n && n ≤ high

end CommandShell.Text
