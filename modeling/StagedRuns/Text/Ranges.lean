/-!
Sets of characters given by ranges of code points, the form in which character properties are
tabulated.
-/

namespace StagedRuns.Text

/-- Ranges of code points, both ends included. -/
abbrev Ranges := List (Nat × Nat)

def Ranges.holds (ranges : Ranges) (c : Char) : Bool :=
  ranges.any fun range => range.1 ≤ c.toNat && c.toNat ≤ range.2

end StagedRuns.Text
