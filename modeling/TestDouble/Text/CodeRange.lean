/-!
# Ranges of code points

Classes of characters are kept as the ranges of their code points, ends included and in increasing
order.
-/

namespace TestDouble.Text

/-- Whether a character's code point lies in one of the ranges. -/
def inRanges (ranges : List (Nat × Nat)) (c : Char) : Bool :=
  ranges.any fun (first, last) => first ≤ c.toNat && c.toNat ≤ last

end TestDouble.Text
