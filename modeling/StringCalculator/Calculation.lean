import StringCalculator.Header
import StringCalculator.Logged
import StringCalculator.ReversePolish
import StringCalculator.ReversePolish.Value
import StringCalculator.Scan

/-!
# `StringCalculator.Calculation` — from an entry to its value

The whole way of one entry: its header, its tokens, the check for negative numbers, reverse Polish
order, value and formula. A blank entry, and one that holds nothing but separators, has the value
zero and no formula. Nothing is kept from one calculation to the next.

## Contents
- **`Calculation`**, with the `Trace` of its stages.
- **`takeHeader`**: the delimiters that apply to an entry, and the expression in it.
- **`readTokens`**: the tokens of an expression and its negative numbers.
- **`calculate`**: all stages.
-/

namespace StringCalculator

/-- The stages of a calculation, each as it is shown. -/
structure Trace where
  delimiters : Text := []
  tokens : Text := []
  reversePolish : Text := []
  deriving DecidableEq, Repr

/-- What a calculation finds. -/
structure Calculation where
  value : Number := 0
  /-- The formula with all its parentheses; none if there was nothing to calculate. -/
  formula : Text := []
  trace : Trace := {}
  deriving DecidableEq, Repr

/-- The formula and its value as one line. -/
def Calculation.text (c : Calculation) : Text :=
  "Formula: ".toList ++ c.formula ++ " = ".toList ++ c.value.text

/-! ## Stages -/

/-- The delimiters that apply to an entry and the expression in it: those of its header if it starts
    with the marker, else the given ones for the whole entry. -/
def takeHeader (defaults : Delimiters) : Text → Logged HeaderError (Delimiters × Text)
  | '/' :: '/' :: t => do
    let (ds, expression) ← Logged.ofExcept (Header.read t)
    Logged.record [.header ds]
    pure (ds, expression)
  | t => pure (defaults, t)

/-- What the log records of one operand. -/
def Reading.events (bound : Number) (r : Reading) : List Event :=
  (if Decimal.isNumeral r.word then [] else [.invalidWord r.word])
    ++ (if r.exceeds bound then [.aboveBound r.value bound] else [])

/-- The tokens of an expression under a bound and its distinct negative numbers, unless something in
    it stands at a wrong place. The log tells of every operand read until then. -/
def readTokens (ds : Delimiters) (bound : Number) (t : Text) :
    Logged CalculationError (List (Token Number) × List Int) :=
  let scan := Scan.ofText ds t
  { events := scan.readings.flatMap (Reading.events bound)
    outcome :=
      match scan.fault? with
      | some fault => .error (.invalidExpression fault)
      | none => .ok (scan.tokens bound, scan.negatives) }

/-! ## All stages -/

/-- Calculates an entry under a policy. Where there is no entry at all, the entry is the empty text. -/
def calculate (p : Policy) (entry : Text) : Logged CalculationError Calculation :=
  if entry.isBlank then pure {}
  else do
    let (ds, expression) ← (takeHeader p.delimiters entry).mapError .malformedHeader
    let (tokens, negatives) ← readTokens ds p.bound expression
    Logged.record [.tokens tokens]
    if p.refusesNegatives ∧ negatives ≠ [] then Logged.fail (.negativesNotAllowed negatives)
    else if tokens = [] then pure { trace := { delimiters := ds.display } }
    else do
      let ordered ← Logged.ofOption .mismatchedParentheses (ReversePolish.ofTokens? tokens)
      Logged.record [.reversePolish ordered]
      let ⟨value, formula⟩ ← Logged.ofExcept (ReversePolish.evaluate ordered)
      Logged.record [.result formula value]
      pure
        { value
          formula
          trace :=
            { delimiters := ds.display
              tokens := Token.display tokens
              reversePolish := Token.display ordered } }

end StringCalculator
