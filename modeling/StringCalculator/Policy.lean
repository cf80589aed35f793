import StringCalculator.Delimiters

/-!
# `StringCalculator.Policy` — the rules of a calculation

What the user of the calculator may choose: whether negative numbers are refused, the largest
magnitude that counts, and the delimiters of a text without a header.
-/

namespace StringCalculator

/-- The rules of a calculation. -/
structure Policy where
  /-- An expression with a negative number is an error. -/
  refusesNegatives : Bool := true
  /-- A number of larger magnitude counts as zero. -/
  bound : Number := 1000
  /-- The delimiters of a text that declares none. -/
  delimiters : Delimiters := .standard
  deriving DecidableEq

namespace Policy

/-- The policy with more delimiters, in front of its own. -/
def withDelimiters (p : Policy) (extra : Delimiters) : Policy :=
  { p with delimiters := extra.merge p.delimiters }

end Policy

end StringCalculator
