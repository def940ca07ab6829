/-!
Sets of characters as ranges of code points, both ends included, in increasing order.
-/
namespace Unbundled.Text

/-- Whether one of the ranges holds `n`. The search ends at the first range above it. -/
def inRanges (n : Nat) : List (Nat × Nat) → Bool
  | [] => false
  | (lo, hi) :: rest => if n < lo then false else if n ≤ hi then true else inRanges n rest

end Unbundled.Text
