/-!
# Sets of characters given by code-point ranges

Properties of characters that no short formula describes are kept as tables of code-point
ranges.  `CharRanges.contains` is membership; the tables themselves stand beside the
properties they define (`Text.Blank`, `Text.Lowercase`, `Text.Printable`).
-/

namespace AutomatonKit.Text

/-- A set of characters as a list of code-point ranges, both ends included. -/
abbrev CharRanges := List (Nat × Nat)

def CharRanges.contains (ranges : CharRanges) (c : Char) : Bool :=
  ranges.any fun range => decide (range.1 ≤ c.toNat) && decide (c.toNat ≤ range.2)

end AutomatonKit.Text
