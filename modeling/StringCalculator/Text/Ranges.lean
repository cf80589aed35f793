/-!
# `StringCalculator.Text.Ranges` — sets of numbers as ascending ranges

A property of characters is given by the ranges of their numbers, first and last included, in
ascending order.
-/

namespace StringCalculator

/-- The number lies in one of the ranges, which ascend. -/
def inRanges (n : Nat) : List (Nat × Nat) → Bool
  | [] => false
  | (first, last) :: ranges => first ≤ n && (n ≤ last || inRanges n ranges)

end StringCalculator
