/-!
# Tables of code points

A property of characters as a list of closed intervals of code points.
-/

namespace LozengeNav

namespace Text

/-- Closed intervals of code points, in ascending order. -/
abbrev Intervals :=
  List (Nat × Nat)

def Intervals.covers (table : Intervals) (n : Nat) : Bool :=
  table.any fun r => r.1 ≤ n && n ≤ r.2

end Text

end LozengeNav
