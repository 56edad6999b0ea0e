/-!
# Ranges of code points

A Unicode property is a list of ranges, first and last code point, in ascending order.
-/

namespace NetworkPlan
namespace Text

/-- Whether a code point lies in one of the ranges. -/
def inRanges (ranges : List (Nat × Nat)) (n : Nat) : Bool :=
  ranges.any fun (first, last) => first ≤ n && n ≤ last

end Text
end NetworkPlan
