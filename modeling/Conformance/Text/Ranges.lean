/-!
# Conformance.Text.Ranges

Sets of characters given as a table of code point ranges, in ascending order.
The modules `Text.Alphabetic`, `Text.Numeric`, `Text.GraphemeExtend` and
`Text.Unprintable` hold one table each, of Unicode 17.
-/

namespace Conformance.Text

/-- Inclusive ranges of code points, ascending and disjoint. -/
abbrev Ranges := List (Nat × Nat)

/-- Whether a code point lies in one of the ranges. The first range that ends at
or after it decides. -/
def Ranges.contains : Ranges → Nat → Bool
  | [], _ => false
  | (first, last) :: rest, n => if n ≤ last then first ≤ n else contains rest n

end Conformance.Text
