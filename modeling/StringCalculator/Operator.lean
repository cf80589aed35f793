/-!
# `StringCalculator.Operator` — the four operators

Each operator has a symbol, a precedence and a meaning on exact integers. All of them group to the
left.
-/

namespace StringCalculator

/-- The binary operators of an expression. -/
inductive Operator where
  | add | sub | mul | div
  deriving DecidableEq, Repr

namespace Operator

/-- The character that stands for the operator. -/
def symbol : Operator → Char
  | add => '+'
  | sub => '-'
  | mul => '*'
  | div => '/'

/-- How tightly the operator binds: products and quotients more than sums and differences. -/
def precedence : Operator → Nat
  | add | sub => 1
  | mul | div => 2

/-- The exact result; a quotient is cut off toward zero. -/
def exact : Operator → Int → Int → Int
  | add, a, b => a + b
  | sub, a, b => a - b
  | mul, a, b => a * b
  | div, a, b => a.tdiv b

/-- Different operators have different symbols. -/
theorem symbol_injective {o p : Operator} (h : o.symbol = p.symbol) : o = p := by
  revert h
  cases o <;> cases p <;> decide

end Operator

end StringCalculator
