/-!
# Ranges of code points

A property of characters is given as a list of closed intervals of code points, in ascending order.
-/

namespace TracingSidecar.Text

/-- Closed intervals of code points. -/
abbrev Ranges := List (Nat × Nat)

namespace Ranges

/-- Whether a character lies in one of the intervals. -/
def contains (ranges : Ranges) (c : Char) : Bool :=
  ranges.any fun (first, last) => first ≤ c.toNat && c.toNat ≤ last

/-- The number of code points in the intervals. -/
def size : Ranges → Nat
  | [] => 0
  | (first, last) :: rest => (last - first + 1) + size rest

end Ranges

end TracingSidecar.Text
