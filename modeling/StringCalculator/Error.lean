import StringCalculator.Number
import StringCalculator.Operator

/-!
# `StringCalculator.Error` — what a calculation can fail with

Errors are causes with the data that explains them; their wording is a function of the cause.

## Contents
- **`HeaderError`**: why a delimiter header, or a list of delimiters, is refused.
- **`ExpressionFault`**: what stands at a wrong place in an expression or in a postfix list.
- **`CalculationError`**: everything that ends a calculation without a value.
-/

namespace StringCalculator

/-- Why a delimiter header is refused. -/
inductive HeaderError where
  /-- No line feed ends the header line. -/
  | missingTerminator
  /-- A delimiter has no character. -/
  | emptyDelimiter
  /-- A bracket is not closed, or text stands between two groups. -/
  | bracketSyntax
  /-- The body starts with a bracket or ends with one, and not both. -/
  | mismatchedBrackets
  /-- A delimiter without brackets around it contains one. -/
  | bracketInPlainDelimiter
  deriving DecidableEq, Repr

/-- What stands at a wrong place. -/
inductive ExpressionFault where
  | lparenForOperator
  | rparenForOperand
  | operatorForOperand (o : Operator)
  | operandForOperator (word : Text)
  /-- A unary minus stands in front of a parenthesis. -/
  | minusWithoutNumber
  | repeatedMinus
  /-- An operator of a postfix list finds fewer than two operands. -/
  | missingOperand
  /-- A postfix list leaves a number of results other than one. -/
  | resultCount (count : Nat)
  deriving DecidableEq, Repr

/-- Why a calculation has no value. -/
inductive CalculationError where
  | malformedHeader (reason : HeaderError)
  /-- The distinct negative numbers of the expression, in order of first appearance. -/
  | negativesNotAllowed (values : List Int)
  | invalidExpression (fault : ExpressionFault)
  | mismatchedParentheses
  | divisionByZero
  /-- A result lies outside the range of numbers. -/
  | overflow
  deriving DecidableEq, Repr

/-! ## Wording -/

/-- The reason in words. -/
def HeaderError.message : HeaderError → Text
  | missingTerminator => "missing terminator".toList
  | emptyDelimiter => "empty delimiter".toList
  | bracketSyntax => "bracket syntax".toList
  | mismatchedBrackets => "mismatched brackets".toList
  | bracketInPlainDelimiter => "bracket in plain delimiter".toList

/-- The fault in words. -/
def ExpressionFault.message : ExpressionFault → Text
  | lparenForOperator => "'(' where an operator was expected".toList
  | rparenForOperand => "')' where an operand was expected".toList
  | operatorForOperand o =>
    "operator '".toList ++ o.symbol :: "' where an operand was expected".toList
  | operandForOperator word =>
    "operand '".toList ++ word ++ "' where an operator was expected".toList
  | minusWithoutNumber => "unary minus must be followed by a number".toList
  | repeatedMinus => "repeated unary minus".toList
  | missingOperand => "missing operand".toList
  | resultCount count => "expected one result, found ".toList ++ Decimal.ofNat count

/-- Integers divided by a comma and a space. -/
def listed (values : List Int) : Text := List.intercalate ", ".toList (values.map Decimal.ofInt)

/-- The error in words. -/
def CalculationError.message : CalculationError → Text
  | malformedHeader reason => "Malformed delimiter header: ".toList ++ reason.message
  | negativesNotAllowed values => "Negatives not allowed: ".toList ++ listed values
  | invalidExpression fault => "Invalid expression: ".toList ++ fault.message
  | mismatchedParentheses => "Mismatched parentheses".toList
  | divisionByZero => "Attempted to divide by zero".toList
  | overflow => "Arithmetic overflow".toList

end StringCalculator
