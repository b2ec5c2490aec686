/-!
# Sets of characters as ranges of code points

A property of the Unicode character database is kept as the list of the ranges
of code points that have it, both ends included, in ascending order.
-/

namespace ChainParams.Text

/-- Whether a character's code point lies in one of the ranges. -/
def inRanges (ranges : List (Nat × Nat)) (c : Char) : Bool :=
  ranges.any fun (low, high) => low ≤ c.toNat && c.toNat ≤ high

end ChainParams.Text
