import StringCalculator.Text.Basic

/-!
# `StringCalculator.Text.Typed` — texts typed on one line

A line of input cannot hold a line feed, so one is typed as two characters, a backslash and an `n`.
-/

namespace StringCalculator.Typed

/-- The text that was meant: each backslash with an `n` behind it is a line feed. -/
def decode : Text → Text
  | '\\' :: 'n' :: t => '\n' :: decode t
  | c :: t => c :: decode t
  | [] => []

/-- Nothing is meant just by nothing. -/
@[simp] theorem decode_eq_nil_iff {t : Text} : decode t = [] ↔ t = [] := by
  fun_cases decode t <;> simp

end StringCalculator.Typed
