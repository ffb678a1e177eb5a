/-!
# Ranges of code points

A property of characters is given by the ranges of code points that have it, ends included.
-/

namespace VariantPlan.Text

/-- Ranges of code points, each with its first and its last one. -/
abbrev Ranges : Type := List (Nat × Nat)

/-- Whether a character lies in one of the ranges. -/
def isWithin (ranges : Ranges) (c : Char) : Bool :=
  ranges.any fun r => r.1 ≤ c.toNat && c.toNat ≤ r.2

end VariantPlan.Text
