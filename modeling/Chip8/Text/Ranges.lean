/-!
# Ranges of code points

Sets of characters are given by the ranges of their code points.

* `inRanges` — whether a code point lies in one of some ranges
-/

namespace Chip8.Text

/-- Whether `n` lies in one of the ranges, each of them a first and a last number. -/
def inRanges (ranges : Array (Nat × Nat)) (n : Nat) : Bool :=
  ranges.any fun range => range.1 ≤ n && n ≤ range.2

end Chip8.Text
