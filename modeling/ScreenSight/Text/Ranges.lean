/-!
# Ranges of code points

The tables of characters hold inclusive ranges of code points.
-/

namespace ScreenSight.Text

/-- Whether a code point lies in one of some ranges. -/
def inRanges (ranges : List (Nat × Nat)) (code : Nat) : Bool :=
  ranges.any fun range => range.1 ≤ code && code ≤ range.2

end ScreenSight.Text
