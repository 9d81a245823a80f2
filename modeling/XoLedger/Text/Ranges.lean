/-!
# Sets of code points

A property of characters is stored as the ascending list of the ranges on which it holds.
-/

namespace XoLedger

/-- Ascending ranges of code points, ends included. -/
abbrev Ranges := List (Nat × Nat)

/-- Whether a code point lies in one of the ranges; the search ends at the first later range. -/
def Ranges.contains (ranges : Ranges) (n : Nat) : Bool :=
  match ranges with
  | [] => false
  | (first, last) :: rest => decide (first ≤ n) && (decide (n ≤ last) || Ranges.contains rest n)

end XoLedger
