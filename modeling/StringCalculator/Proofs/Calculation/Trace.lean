import StringCalculator.Proofs.Calculation.Stages
import StringCalculator.Proofs.Token

/-!
# `StringCalculator.Proofs.Calculation.Trace` — a trace tells what was calculated

A calculation that succeeds shows its tokens, and the same tokens in reverse Polish order, as two lines of
text. These lines are no mere comment: what they say can be read back, and it is what the calculation went
through. So value and formula can be checked from the trace alone.

The lines are written at different stages, and where an expression has no tokens the last stages are never
reached; then both lines are empty, which is how no tokens are written.

## Contents
- **`calculate_trace`**: the tokens and their order as they read back from the trace.
-/

namespace StringCalculator

/-- **The trace is faithful.** A calculation of an entry that is not blank has a trace that can be read back
    piece by piece: its first line is the tokens of the expression, and its second one `r` is what the value
    and the formula come from. There are no tokens, nothing in order, the value is zero and there is no
    formula; or `r` is the order of the tokens, and it evaluates to this value and this formula. No two lists
    of tokens are written the same way, whatever they are. -/
theorem calculate_trace (p : Policy) (entry : Text) :
    (∀ c, entry.isBlank = false → (calculate p entry).outcome = .ok c →
      ∃ ds t ts negatives r, (takeHeader p.delimiters entry).outcome = .ok (ds, t)
        ∧ (readTokens ds p.bound t).outcome = .ok (ts, negatives)
        ∧ Token.ofDisplay? c.trace.tokens = some ts ∧ Token.ofDisplay? c.trace.reversePolish = some r
        ∧ ((ts = [] ∧ r = [] ∧ c.value = 0 ∧ c.formula = [])
          ∨ (ReversePolish.ofTokens? ts = some r
            ∧ ReversePolish.evaluate r = .ok ⟨c.value, c.formula⟩)))
    ∧ ∀ ts us : List (Token Number), Token.display ts = Token.display us → ts = us := by
  refine ⟨fun c hblank h => ?_, fun ts us => Token.display_injective⟩
  rcases calculate_eq_ok h with ⟨hb, -⟩ | ⟨ds, t, ts, negatives, hheader, hread, hconclude⟩
  · rw [hblank] at hb
    cases hb
  obtain ⟨-, ⟨rfl, rfl⟩ | ⟨ordered, r, -, hordered, hresult, rfl⟩⟩ := conclude_eq_ok_iff.1 hconclude
  · have hnone : Token.ofDisplay? [] = some [] := Token.ofDisplay?_display []
    exact ⟨ds, t, [], negatives, [], hheader, hread, hnone, hnone, .inl ⟨rfl, rfl, rfl, rfl⟩⟩
  · exact ⟨ds, t, ts, negatives, ordered, hheader, hread, Token.ofDisplay?_display ts,
      Token.ofDisplay?_display ordered, .inr ⟨hordered, hresult⟩⟩

/-- A difference of negative numbers at the edge of the range, behind a header. -/
theorem calculate_trace_negative :
    ∃ c, (calculate { refusesNegatives := false, bound := 9223372036854775807 }
        "//[;]\n-9223372036854775807 - -3;x".toList).outcome = .ok c
      ∧ c.trace.tokens = "-9223372036854775807 - -3 + 0".toList
      ∧ ∃ ds t ts negatives r,
        (takeHeader .standard "//[;]\n-9223372036854775807 - -3;x".toList).outcome = .ok (ds, t)
        ∧ (readTokens ds 9223372036854775807 t).outcome = .ok (ts, negatives)
        ∧ Token.ofDisplay? c.trace.tokens = some ts ∧ Token.ofDisplay? c.trace.reversePolish = some r
        ∧ ((ts = [] ∧ r = [] ∧ c.value = 0 ∧ c.formula = [])
          ∨ (ReversePolish.ofTokens? ts = some r
            ∧ ReversePolish.evaluate r = .ok ⟨c.value, c.formula⟩)) := by
  have hc : (calculate { refusesNegatives := false, bound := 9223372036854775807 }
      "//[;]\n-9223372036854775807 - -3;x".toList).outcome
      = .ok
        { value := -9223372036854775804
          formula := "((-9223372036854775807 - -3) + 0)".toList
          trace :=
            { delimiters := "\";\"".toList
              tokens := "-9223372036854775807 - -3 + 0".toList
              reversePolish := "-9223372036854775807 -3 - 0 +".toList } } := by decide +kernel
  obtain ⟨hread, -⟩ := calculate_trace { refusesNegatives := false, bound := 9223372036854775807 }
    "//[;]\n-9223372036854775807 - -3;x".toList
  exact ⟨_, hc, by decide +kernel, hread _ (by decide +kernel) hc⟩

end StringCalculator
