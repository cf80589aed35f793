import StringCalculator.Error
import StringCalculator.Token

/-!
# `StringCalculator.ReversePolish.Value` — evaluating a reverse Polish list

The list is read from left to right with a stack of intermediate results. Each result carries its
value and the formula it came from, in which every operator has its own pair of parentheses.
Arithmetic is exact: a result outside the range of numbers is an error, never another number.

## Contents
- **`Operator.apply`**, with `apply_eq_ok_iff`: one operator on two numbers.
- **`ReversePolish.Result`**: a value with its formula.
- **`ReversePolish.step`, `ReversePolish.evaluate`**: one token, and a whole list.
-/

namespace StringCalculator

/-- The operator's exact result; a zero divisor is an error before its result is looked at. -/
def Operator.apply (o : Operator) (a b : Number) : Except CalculationError Number :=
  if o = .div ∧ b = 0 then .error .divisionByZero
  else
    match Number.ofInt? (o.exact a.toInt b.toInt) with
    | some n => .ok n
    | none => .error .overflow

/-- **Exactness.** A sum, a difference or a product is a result if it is a number. So is a quotient, cut
    off toward zero, if the divisor is not zero. -/
theorem Operator.apply_eq_ok_iff {o : Operator} {a b n : Number} :
    o.apply a b = .ok n ↔ match o with
      | .add => n.toInt = a.toInt + b.toInt
      | .sub => n.toInt = a.toInt - b.toInt
      | .mul => n.toInt = a.toInt * b.toInt
      | .div => b ≠ 0 ∧ n.toInt = a.toInt.tdiv b.toInt := by
  have hexact : o.apply a b = .ok n ↔ ¬(o = .div ∧ b = 0) ∧ n.toInt = o.exact a.toInt b.toInt := by
    unfold Operator.apply
    by_cases hz : o = .div ∧ b = 0
    · simp [hz]
    · simp only [hz, if_false, not_false_eq_true, true_and]
      rw [← Number.ofInt?_eq_some_iff]
      cases Number.ofInt? (o.exact a.toInt b.toInt) <;> simp
  rw [hexact]
  cases o <;> simp [Operator.exact]

namespace ReversePolish

/-- A value with the formula it came from. -/
structure Result where
  value : Number
  formula : Text
  deriving DecidableEq, Repr

/-- The formula of an operator between two formulas. -/
def enclosed (o : Operator) (left right : Text) : Text :=
  '(' :: left ++ ' ' :: o.symbol :: ' ' :: right ++ [')']

/-- A number as a result of its own. -/
def Result.ofNumber (n : Number) : Result := ⟨n, n.text⟩

/-- The operator between two results. -/
def Result.combine (o : Operator) (left right : Result) : Except CalculationError Result :=
  (o.apply left.value right.value).map fun value =>
    ⟨value, enclosed o left.formula right.formula⟩

/-- The stack behind one more token. An operator takes two results; the upper one stands on its
    right. -/
def step (stack : List Result) : Token Number → Except CalculationError (List Result)
  | .operand n => .ok (.ofNumber n :: stack)
  | .operator o =>
    match stack with
    | right :: left :: stack => (Result.combine o left right).map (· :: stack)
    | _ => .error (.invalidExpression .missingOperand)
  | .lparen | .rparen => .error .mismatchedParentheses

/-- The one result that a list of tokens leaves. -/
def evaluate (ts : List (Token Number)) : Except CalculationError Result :=
  match ts.foldlM step [] with
  | .error e => .error e
  | .ok [result] => .ok result
  | .ok stack => .error (.invalidExpression (.resultCount stack.length))

end ReversePolish

end StringCalculator
