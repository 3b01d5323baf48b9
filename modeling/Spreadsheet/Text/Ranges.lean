/-!
# Sets of characters given by ranges of code points

A property of characters from a standard is a list of closed ranges of code points. This file fixes
how such a list is read (`inRanges`); the lists themselves stand in the modules named for their
property.
-/

namespace Spreadsheet.Text

/-- Closed ranges of code points. -/
abbrev Ranges := List (Nat × Nat)

/-- Whether one of the ranges holds the code point. -/
def inRanges (ranges : Ranges) (n : Nat) : Bool :=
  ranges.any fun r => r.1 ≤ n && n ≤ r.2

end Spreadsheet.Text
