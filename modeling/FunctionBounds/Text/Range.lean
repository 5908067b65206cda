/-!
# Ranges of characters

* `inRanges`: whether a character lies in one of several ranges of code points.
-/

namespace FunctionBounds.Text

/-- Whether a character lies in one of several ranges of code points, both ends included. -/
def inRanges (ranges : List (Nat × Nat)) (c : Char) : Bool :=
  ranges.any fun (first, last) => first ≤ c.toNat && c.toNat ≤ last

end FunctionBounds.Text
