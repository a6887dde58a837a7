/-!
# Text — ranges of characters

Properties of characters are given by lists of ranges of code points.
-/

namespace Reminders.Text

/-- The code point lies in one of the ranges, whose ends are included. -/
def inRanges (ranges : List (Nat × Nat)) (n : Nat) : Bool :=
  ranges.any fun r => r.1 ≤ n && n ≤ r.2

end Reminders.Text
