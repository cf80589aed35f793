import StringCalculator.Calculation
import StringCalculator.Terminal.Transcript
import StringCalculator.Text.Typed

/-!
# `StringCalculator.Terminal.Answer` — the answer to one line

A line is decoded, calculated and answered: with its formula, if it has one, and its value, or with
the error. The answer depends on the line and the policy alone.
-/

namespace StringCalculator.Terminal

/-- What is written for a line, and whether it has a value. -/
structure Answer where
  succeeded : Bool
  transcript : Transcript
  deriving DecidableEq

/-- The lines that report a value. -/
def report (c : Calculation) : Text :=
  (if c.formula = [] then [] else c.text ++ ['\n'])
    ++ "Result: ".toList ++ c.value.text ++ ['\n']

/-- The line that reports an error. -/
def complaint (e : CalculationError) : Text := "Error: ".toList ++ e.message ++ ['\n']

/-- Answers a line as it was typed. -/
def answer (p : Policy) (line : Text) : Answer :=
  let entry := Typed.decode line
  let calculated := calculate p entry
  let course := Transcript.ofEvents calculated.events
  match calculated.outcome with
  | .ok c => ⟨true, course ++ [.text (report c)]⟩
  | .error e => ⟨false, course ++ [.event (.failure entry e), .text (complaint e)]⟩

end StringCalculator.Terminal
