/-!
# Character classes as ranges

A class of characters given by ranges of code points, as the Unicode tables give them.
-/

namespace DateLayout.Text

/-- Whether the character's code point lies in one of the ranges, both ends included. -/
def inRanges (ranges : List (Nat × Nat)) (c : Char) : Bool :=
  ranges.any fun (first, last) => first ≤ c.toNat && c.toNat ≤ last

end DateLayout.Text
