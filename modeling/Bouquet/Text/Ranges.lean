/-!
# Ranges of code points

Character properties are tables of inclusive ranges in ascending order.
-/

namespace Bouquet.Text

/-- Whether one of the ranges holds the code point. -/
def inRanges (ranges : List (Nat × Nat)) (code : Nat) : Bool :=
  ranges.any fun (first, last) => first ≤ code && code ≤ last

end Bouquet.Text
