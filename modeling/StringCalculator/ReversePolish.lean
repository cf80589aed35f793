import StringCalculator.Token

/-!
# `StringCalculator.ReversePolish` — reverse Polish order

An expression is put into reverse Polish order, where each operator follows its operands and no
parenthesis is needed. Operands are written at once; an operator waits until one that binds no more
tightly, a closing parenthesis or the end releases it. Operators that wait inside parentheses are
kept apart from those around them, so one list of waiting operators per open parenthesis is held.

The order is found for any list of tokens whose parentheses match, whether or not it is an
expression.

## Contents
- **`arrange`**: the rest of the order, given the waiting operators.
- **`ofTokens?`**: the order of a whole list of tokens.
-/

namespace StringCalculator.ReversePolish

variable {α : Type}

/-- The order of the remaining tokens and of the waiting operators, latest first: those inside the
    innermost open parenthesis are `waiting`, those around it are `outer`, one list for each. -/
def arrange (waiting : List Operator) (outer : List (List Operator)) :
    List (Token α) → Option (List (Token α))
  | [] => if outer = [] then some (waiting.map .operator) else none
  | .operand value :: ts => (arrange waiting outer ts).map (.operand value :: ·)
  | .lparen :: ts => arrange [] (waiting :: outer) ts
  | .rparen :: ts =>
    match outer with
    | [] => none
    | around :: outer => (arrange around outer ts).map (waiting.map .operator ++ ·)
  | .operator o :: ts =>
    let released := waiting.takeWhile (o.precedence ≤ ·.precedence)
    let kept := waiting.dropWhile (o.precedence ≤ ·.precedence)
    (arrange (o :: kept) outer ts).map (released.map .operator ++ ·)

/-- The tokens in reverse Polish order, if the parentheses match. -/
def ofTokens? (ts : List (Token α)) : Option (List (Token α)) := arrange [] [] ts

end StringCalculator.ReversePolish
