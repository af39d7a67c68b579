/-!
# Tables of characters

A property of characters is given as a table of code points: closed ranges, in increasing order.
-/

namespace ServiceProbe.Text

/-- Closed ranges of code points. -/
abbrev Ranges := List (Nat × Nat)

/-- The character lies in one of the ranges. -/
def Ranges.has (ranges : Ranges) (c : Char) : Bool :=
  ranges.any fun (low, high) => low ≤ c.toNat && c.toNat ≤ high

end ServiceProbe.Text
