/-!
# Sets of code points

A set of code points is a list of ranges, and `CodePointRanges.contains` looks a character up.
-/

namespace SqlStatement

/-- First and last code points of consecutive ranges. -/
abbrev CodePointRanges := List (Nat × Nat)

namespace CodePointRanges

def contains (ranges : CodePointRanges) (c : Char) : Bool :=
  ranges.any fun (first, last) => decide (first ≤ c.toNat ∧ c.toNat ≤ last)

end CodePointRanges

end SqlStatement
