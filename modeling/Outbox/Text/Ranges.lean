/-!
# Ranges of characters

A property of characters that follows no simple rule is given by the ranges of
code points that have it, both ends included, in ascending order.
-/

namespace Outbox

/-- Ranges of code points, both ends included. -/
abbrev Ranges := List (Nat × Nat)

/-- Some range holds the character. -/
def Ranges.contains (ranges : Ranges) (c : Char) : Bool :=
  ranges.any fun r => r.1 ≤ c.toNat && c.toNat ≤ r.2

end Outbox
