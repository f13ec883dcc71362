/-!
# Code point ranges

Sets of characters given by a standard are kept as ranges of code points, both ends included, in
ascending order.
-/
namespace SchemaReview.Text

/-- Whether a code point lies in one of the ranges. -/
def inRanges (ranges : List (Nat × Nat)) (n : Nat) : Bool :=
  ranges.any fun (first, last) => first ≤ n && n ≤ last

end SchemaReview.Text
