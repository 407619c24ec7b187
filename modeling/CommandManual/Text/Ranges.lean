/-!
# Classes of characters given by ranges

A class of characters is a list of ranges of code points in ascending order; `inRanges` looks a
code point up.
-/

namespace CommandManual

/-- A first and a last code point. -/
abbrev CodeRange := Nat × Nat

/-- Does one of the ranges hold the code point? The ranges ascend, so the search ends at the
first range that begins above it. -/
def inRanges (n : Nat) : List CodeRange → Bool
  | [] => false
  | (lo, hi) :: rs => if n < lo then false else n ≤ hi || inRanges n rs

end CommandManual
