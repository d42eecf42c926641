/-!
# Sets of characters given by ranges

A property of characters is stored as the list of its maximal ranges of code points, in ascending
order. `Unicode.inRanges` asks whether a character has the property.
-/

namespace PatternSearch.Unicode

/-- Whether the character's code point lies in one of the ranges, both ends included. -/
def inRanges (ranges : List (Nat × Nat)) (c : Char) : Bool :=
  ranges.any fun (first, last) => first ≤ c.toNat && c.toNat ≤ last

end PatternSearch.Unicode
