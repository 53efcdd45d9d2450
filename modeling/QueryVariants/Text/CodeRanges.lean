/-!
# Ranges of code points

A class of characters is a list of ranges of code points, both ends included.
-/

namespace QueryVariants.Text

def inRanges (ranges : List (Nat × Nat)) (c : Char) : Bool :=
  ranges.any fun (first, last) => first ≤ c.toNat && c.toNat ≤ last

end QueryVariants.Text
