/-!
# Character classes as lists of ranges

A class of characters is given by the ranges of its code points, in ascending order.
-/

namespace TelemetryAutomation.Text

/-- Whether a character lies in one of the ranges, ends included. -/
def inRanges (ranges : List (Nat × Nat)) (c : Char) : Bool :=
  ranges.any fun range => range.1 ≤ c.toNat && c.toNat ≤ range.2

end TelemetryAutomation.Text
