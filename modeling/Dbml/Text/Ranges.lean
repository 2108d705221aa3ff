/-!
# Sets of characters

Large character classes are kept as lists of ranges of code points.
-/

namespace Dbml.Text

/-- A set of characters: the code points from `first` to `last` of each pair, ends included. -/
abbrev Ranges := List (Nat × Nat)

/-- Membership in one of the ranges. -/
def Ranges.has (ranges : Ranges) (c : Char) : Bool :=
  ranges.any fun range => range.1 ≤ c.toNat && c.toNat ≤ range.2

end Dbml.Text
