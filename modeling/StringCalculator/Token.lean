import StringCalculator.Number
import StringCalculator.Operator

/-!
# `StringCalculator.Token` — the tokens of an expression

A token is an operand, an operator or a parenthesis. What an operand carries changes on the way from
text to result: first a word, then a reading of that word, at last a number. The rest of a token
list stays the same, which is what `Token.map` says.

## Contents
- **`Token`**, with `map` and the parts `operand?`, `isOperator`.
- **`Token.text`, `Token.display`**: a token, and a list of tokens, in words.
-/

namespace StringCalculator

/-- An operand with what it carries, an operator, or a parenthesis. -/
inductive Token (α : Type) where
  | operand (value : α)
  | operator (o : Operator)
  | lparen
  | rparen
  deriving DecidableEq, Repr

namespace Token

variable {α β : Type}

/-- The token with another operand. -/
def map (f : α → β) : Token α → Token β
  | operand value => operand (f value)
  | operator o => operator o
  | lparen => lparen
  | rparen => rparen

/-- What an operand carries. -/
def operand? : Token α → Option α
  | operand value => some value
  | _ => none

/-- The token is an operator. -/
def isOperator : Token α → Bool
  | operator _ => true
  | _ => false

@[simp] theorem map_map {γ : Type} (g : β → γ) (f : α → β) (t : Token α) :
    (t.map f).map g = t.map fun a => g (f a) := by cases t <;> rfl

@[simp] theorem isOperator_map (f : α → β) (t : Token α) :
    (t.map f).isOperator = t.isOperator := by cases t <;> rfl

@[simp] theorem operand?_map (f : α → β) (t : Token α) :
    (t.map f).operand? = t.operand?.map f := by cases t <;> rfl

/-- How a token is written. -/
def text : Token Number → Text
  | operand n => n.text
  | operator o => [o.symbol]
  | lparen => ['(']
  | rparen => [')']

/-- How a list of tokens is written: one space between neighbours. -/
def display (ts : List (Token Number)) : Text := Text.spaced (ts.map text)

end Token

end StringCalculator
