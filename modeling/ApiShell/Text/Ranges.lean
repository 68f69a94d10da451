/-! Tables of code points. A property of characters is kept as a list of ranges, each given
by its first and its last code point. -/

namespace ApiShell.Text

/-- Whether a code point lies in one of the ranges. -/
def inRanges (ranges : List (Nat × Nat)) (code : Nat) : Bool :=
  ranges.any fun range => range.1 ≤ code && code ≤ range.2

end ApiShell.Text
