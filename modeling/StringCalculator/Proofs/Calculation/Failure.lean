import StringCalculator.Proofs.Calculation.Stages
import StringCalculator.Proofs.Header
import StringCalculator.Proofs.ReversePolish.Value
import StringCalculator.Proofs.Scan.Adjacency

/-!
# `StringCalculator.Proofs.Calculation.Failure` — which stage fails, and how

Each stage of a calculation has failures of its own. The header fails as a header, the tokens fail as an
invalid expression, the check for negative numbers has its own error. What is left once tokens are there
and none of them is refused is the order and the value, and these fail in three ways only: parentheses
that do not match, a zero divisor, a value out of range. Evaluation never meets a list that is not the
order of an expression, although it can tell such lists: what a scan lets through has a tree as soon as
its parentheses match.

## Contents
- **`conclude_of_derives`**: what follows from the tokens of an expression.
- **`conclude_of_not_balanced`**: when parentheses are blamed.
- **`conclude_of_readTokens`**, **`conclude_ne_invalidExpression`**: what was read fails in few ways, and is
  never malformed.
- **`outcome_calculate_of_tokens`**: the outcomes that are left once tokens are read.
-/

namespace StringCalculator

open ReversePolish

/-! ## What follows from tokens -/

/-- No expression is empty. -/
theorem Derives.ne_nil {α : Type} {k : Phrase} {w : List (Token α)} {e : Expr α}
    (h : Derives k w e) : w ≠ [] := by
  induction h with
  | operand a => exact List.cons_ne_nil _ _
  | parens _ _ => exact List.cons_ne_nil _ _
  | factor _ ih => exact ih
  | times _ _ _ _ _ => simp
  | product _ ih => exact ih
  | plus _ _ _ _ _ => simp

/-- What a tree with a result makes of the delimiters and the tokens it comes from. -/
def Expr.concluded (e : Expr Number) (ds : Delimiters) (ts : List (Token Number)) (r : Result) :
    Calculation where
  value := r.value
  formula := r.formula
  trace :=
    { delimiters := ds.display
      tokens := Token.display ts
      reversePolish := Token.display e.postorder }

variable {p : Policy} {ds : Delimiters} {ts : List (Token Number)} {negatives : List Int}

/-- **The tokens of an expression** have the outcome of its tree, unless a negative value is refused. -/
theorem conclude_of_derives {e : Expr Number} (h : Derives .sum ts e)
    (hallowed : p.refusesNegatives → negatives = []) :
    conclude p ds ts negatives = e.outcome.map (e.concluded ds ts) := by
  rw [conclude_of_ordered hallowed h.ne_nil h.arranges.ofTokens?, evaluate_postorder]
  rfl

/-- Tokens whose parentheses do not match have no order, and that is what is said of them. -/
theorem conclude_of_not_balanced (hne : ts ≠ []) (hallowed : p.refusesNegatives → negatives = [])
    (h : ¬Balanced .lparen .rparen ts) :
    conclude p ds ts negatives = .error .mismatchedParentheses := by
  have hnone : ofTokens? ts = none := by
    rw [← isSome_ofTokens?_iff] at h
    exact Option.not_isSome_iff_eq_none.1 h
  exact conclude_of_unordered hallowed hne hnone

/-- **What was read fails in few ways.** If no negative value is refused, tokens that were read have a
    value or a failure of arithmetic, or their parentheses do not match. -/
theorem conclude_of_readTokens {bound : Number} {t : Text}
    (hread : (readTokens ds bound t).outcome = .ok (ts, negatives))
    (hallowed : p.refusesNegatives → negatives = []) :
    ArithmeticOutcome (conclude p ds ts negatives)
      ∨ conclude p ds ts negatives = .error .mismatchedParentheses := by
  by_cases hts : ts = []
  · rw [hts, conclude_of_no_tokens hallowed]
    exact .inl (.inl ⟨_, rfl⟩)
  · by_cases hbalanced : Balanced .lparen .rparen ts
    · obtain ⟨e, he⟩ := exists_derives_of_readTokens hread hts hbalanced
      rw [conclude_of_derives he hallowed]
      exact .inl (e.arithmeticOutcome_outcome.map _)
    · exact .inr (conclude_of_not_balanced hts hallowed hbalanced)

/-- **No list is malformed that is evaluated.** Tokens that were read are never an invalid expression
    afterwards. -/
theorem conclude_ne_invalidExpression {bound : Number} {t : Text} (fault : ExpressionFault)
    (hread : (readTokens ds bound t).outcome = .ok (ts, negatives)) :
    conclude p ds ts negatives ≠ .error (.invalidExpression fault) := by
  intro hinvalid
  by_cases hrefused : p.refusesNegatives ∧ negatives ≠ []
  · rw [conclude_of_refused hrefused.1 hrefused.2] at hinvalid
    cases hinvalid
  · have hallowed : p.refusesNegatives → negatives = [] := Decidable.not_and_not_right.1 hrefused
    rcases conclude_of_readTokens hread hallowed with (⟨c, hc⟩ | hc | hc) | hc
    all_goals
      rw [hc] at hinvalid
      cases hinvalid

/-! ## Blank entries -/

/-- A blank entry has no header, and so no tokens. -/
theorem tokens_eq_nil_of_isBlank {entry t : Text} {bound : Number} {ds' : Delimiters}
    (hblank : entry.isBlank) (hheader : (takeHeader ds entry).outcome = .ok (ds', t))
    (hread : (readTokens ds' bound t).outcome = .ok (ts, negatives)) : ts = [] := by
  rw [takeHeader_of_notMem (Text.notMem_of_isBlank hblank (by decide))] at hheader
  cases hheader
  exact readTokens_eq_nil_of_isBlank hblank hread

/-! ## All failures behind the tokens -/

/-- **Behind the tokens only parentheses and arithmetic fail.** Once the header and the tokens of an entry
    are read, there are tokens and no negative value is refused, the parentheses are blamed just if they
    do not match; if they do, the list that is evaluated has a value or a failure of arithmetic, and so
    has the entry. An invalid expression is always one whose tokens could not be read. -/
theorem outcome_calculate_of_tokens (p : Policy) (entry : Text) :
    (∀ ds t ts negatives, (takeHeader p.delimiters entry).outcome = .ok (ds, t) →
        (readTokens ds p.bound t).outcome = .ok (ts, negatives) → ts ≠ [] →
        (p.refusesNegatives → negatives = []) →
        ((calculate p entry).outcome = .error .mismatchedParentheses ↔ ¬Balanced .lparen .rparen ts)
        ∧ (Balanced .lparen .rparen ts → ArithmeticOutcome (calculate p entry).outcome
          ∧ ∃ ordered, ofTokens? ts = some ordered ∧ ArithmeticOutcome (evaluate ordered)))
    ∧ ∀ fault, (calculate p entry).outcome = .error (.invalidExpression fault) →
        ∃ ds t, (takeHeader p.delimiters entry).outcome = .ok (ds, t)
          ∧ (readTokens ds p.bound t).outcome = .error (.invalidExpression fault) := by
  constructor
  · intro ds t ts negatives hheader hread hne hallowed
    have hblank : entry.isBlank = false := by
      rw [Bool.eq_false_iff]
      intro hblank
      exact hne (tokens_eq_nil_of_isBlank hblank hheader hread)
    rw [outcome_calculate_of_stages hblank hheader hread]
    by_cases hbalanced : Balanced .lparen .rparen ts
    · obtain ⟨e, he⟩ := exists_derives_of_readTokens hread hne hbalanced
      have harithmetic : ArithmeticOutcome (conclude p ds ts negatives) := by
        rw [conclude_of_derives he hallowed]
        exact e.arithmeticOutcome_outcome.map _
      refine ⟨⟨?_, fun h => absurd hbalanced h⟩, fun _ => ⟨harithmetic, e.postorder, ?_, ?_⟩⟩
      · intro hmismatched
        rw [hmismatched] at harithmetic
        rcases harithmetic with ⟨c, hc⟩ | hc | hc <;> cases hc
      · exact he.arranges.ofTokens?
      · rw [evaluate_postorder]
        exact e.arithmeticOutcome_outcome
    · refine ⟨⟨fun _ => hbalanced, ?_⟩, fun h => absurd h hbalanced⟩
      intro _
      exact conclude_of_not_balanced hne hallowed hbalanced
  · intro fault hfault
    rcases calculate_eq_error hfault with ⟨reason, -, hreason⟩ | ⟨ds, t, hheader, htokens⟩
    · cases hreason
    · rcases htokens with hread | ⟨ts, negatives, hread, hconclude⟩
      · exact ⟨ds, t, hheader, hread⟩
      · exact absurd hconclude (conclude_ne_invalidExpression fault hread)

/-- An opening parenthesis at the end is no matter of neighbours, so it is the parentheses that are
    blamed; a last operator is followed by a zero, and there it is the divisor. -/
theorem outcome_calculate_of_tokens_open :
    (calculate {} "1+(".toList).outcome = .error .mismatchedParentheses
    ∧ ArithmeticOutcome (calculate {} "(1+2)/".toList).outcome := by
  have hopen := (outcome_calculate_of_tokens {} "1+(".toList).1 .standard "1+(".toList
    [.operand 1, .operator .add, .lparen] [] rfl (by decide +kernel) (by simp) (fun _ => rfl)
  have hdivided := (outcome_calculate_of_tokens {} "(1+2)/".toList).1 .standard "(1+2)/".toList
    [.lparen, .operand 1, .operator .add, .operand 2, .rparen, .operator .div, .operand 0] [] rfl
    (by decide +kernel) (by simp) (fun _ => rfl)
  exact ⟨hopen.1.2 (by decide), (hdivided.2 (by decide)).1⟩

end StringCalculator
