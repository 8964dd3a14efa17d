/-!
# Ranges of code points

A property of characters is tabulated as a list of ranges, first and last code point of each.

* `inRanges` — whether a character lies in one of them.
-/

namespace Casewise

/-- Whether the code point of a character lies in one of the ranges. -/
def inRanges (ranges : List (Nat × Nat)) (c : Char) : Bool :=
  ranges.any fun r => r.1 ≤ c.toNat && c.toNat ≤ r.2

end Casewise
