/-!
Sets of characters given as ranges of code points, which is how the properties of characters are
tabled.
-/

namespace StyleAudit.Text

/-- Ranges of code points, both ends included, in increasing order. -/
abbrev Ranges := List (Nat × Nat)

def Ranges.contains (ranges : Ranges) (c : Char) : Bool :=
  ranges.any fun (low, high) => low ≤ c.toNat && c.toNat ≤ high

end StyleAudit.Text
