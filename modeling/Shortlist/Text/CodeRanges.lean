/-! # Sets of code points

A character class as closed intervals of code points in ascending order. The order lets a search
stop at the first interval that begins beyond the code point.
-/

namespace Shortlist.Text

/-- Closed intervals of code points, ascending and disjoint. -/
abbrev CodeRanges := List (Nat × Nat)

def CodeRanges.contains : CodeRanges → Nat → Bool
  | [], _ => false
  | (lo, hi) :: rest, n => if n < lo then false else n ≤ hi || CodeRanges.contains rest n

end Shortlist.Text
