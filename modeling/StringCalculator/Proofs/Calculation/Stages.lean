import StringCalculator.Calculation
import StringCalculator.Proofs.Header

/-!
# `StringCalculator.Proofs.Calculation.Stages` — the outcome of a calculation, stage by stage

A calculation keeps a log, and most statements about it are about its outcome alone. `outcome_calculate`
takes the log away: the outcome is that of the header, then of the tokens, then of what follows from
them, which is `conclude`.

## Contents
- **`conclude`**: from the tokens to the result.
- **`outcome_calculate`**: the outcome as a chain of three stages.
- **`calculate_cases`**: the ways that a calculation may go, with an equation for each
  (**`outcome_calculate_of_stages`** for the longest); **`calculate_eq_ok`**, **`calculate_eq_error`**: what
  one that succeeds has gone through, and where one that fails has failed.
- **`conclude_of_refused`**, **`conclude_of_no_tokens`**, **`conclude_of_unordered`**,
  **`conclude_of_ordered`**: the ways to go on from the tokens; **`conclude_eq_ok_iff`**: success again.
-/

namespace StringCalculator

/-- What follows from the tokens and the negative values of an expression. -/
def conclude (p : Policy) (ds : Delimiters) (ts : List (Token Number)) (negatives : List Int) :
    Except CalculationError Calculation :=
  if p.refusesNegatives ∧ negatives ≠ [] then .error (.negativesNotAllowed negatives)
  else if ts = [] then .ok { trace := { delimiters := ds.display } }
  else
    match ReversePolish.ofTokens? ts with
    | none => .error .mismatchedParentheses
    | some ordered =>
      (ReversePolish.evaluate ordered).map fun r =>
        { value := r.value
          formula := r.formula
          trace :=
            { delimiters := ds.display
              tokens := Token.display ts
              reversePolish := Token.display ordered } }

/-- **The stages of a calculation**, without its log. -/
theorem outcome_calculate (p : Policy) (entry : Text) :
    (calculate p entry).outcome
      = if entry.isBlank then .ok {}
        else
          (((takeHeader p.delimiters entry).mapError .malformedHeader).outcome).bind fun header =>
            ((readTokens header.1 p.bound header.2).outcome).bind fun read =>
              conclude p header.1 read.1 read.2 := by
  unfold calculate
  by_cases hblank : entry.isBlank
  · rw [if_pos hblank, if_pos hblank]
    rfl
  · rw [if_neg hblank, if_neg hblank, Logged.outcome_bind]
    congr 1
    funext ⟨ds, x⟩
    rw [Logged.outcome_bind]
    congr 1
    funext ⟨ts, negatives⟩
    rw [Logged.outcome_bind]
    -- the event of the tokens has no part in the outcome
    show Logged.outcome (ite _ _ _) = _
    unfold conclude
    by_cases hneg : p.refusesNegatives ∧ negatives ≠ []
    · rw [if_pos hneg, if_pos hneg]
      rfl
    · rw [if_neg hneg, if_neg hneg]
      by_cases hts : ts = []
      · rw [if_pos hts, if_pos hts]
        rfl
      · rw [if_neg hts, if_neg hts, Logged.outcome_bind]
        cases ReversePolish.ofTokens? ts with
        | none => rfl
        | some ordered =>
          show Logged.outcome (Logged.ofExcept (ReversePolish.evaluate ordered) >>= _) = _
          rw [Logged.outcome_bind]
          show Except.bind (ReversePolish.evaluate ordered) _ = (ReversePolish.evaluate ordered).map _
          cases ReversePolish.evaluate ordered <;> rfl

/-! ## The ways of a calculation -/

section Outcome

variable {p : Policy} {entry t : Text} {ds : Delimiters}

/-- A blank entry is not read at all. -/
theorem outcome_calculate_of_isBlank (hblank : entry.isBlank) : (calculate p entry).outcome = .ok {} := by
  rw [outcome_calculate, if_pos hblank]

/-- A header that is refused ends the calculation: no entry that has one is blank. -/
theorem outcome_calculate_of_header_error {reason : HeaderError}
    (hheader : (takeHeader p.delimiters entry).outcome = .error reason) :
    (calculate p entry).outcome = .error (.malformedHeader reason) := by
  cases hblank : entry.isBlank with
  | true =>
    rw [takeHeader_of_notMem (Text.notMem_of_isBlank hblank (by decide))] at hheader
    cases hheader
  | false =>
    rw [outcome_calculate, hblank, if_neg (by decide)]
    show ((takeHeader p.delimiters entry).outcome.mapError _).bind _ = _
    rw [hheader]
    rfl

/-- Once the header is read, the tokens are next. -/
theorem outcome_calculate_of_header (hblank : entry.isBlank = false)
    (hheader : (takeHeader p.delimiters entry).outcome = .ok (ds, t)) :
    (calculate p entry).outcome
      = (readTokens ds p.bound t).outcome.bind fun read => conclude p ds read.1 read.2 := by
  rw [outcome_calculate, hblank, if_neg (by decide)]
  show ((takeHeader p.delimiters entry).outcome.mapError _).bind _ = _
  rw [hheader]
  rfl

/-- Tokens that cannot be read end the calculation. -/
theorem outcome_calculate_of_read_error {e : CalculationError} (hblank : entry.isBlank = false)
    (hheader : (takeHeader p.delimiters entry).outcome = .ok (ds, t))
    (hread : (readTokens ds p.bound t).outcome = .error e) : (calculate p entry).outcome = .error e := by
  rw [outcome_calculate_of_header hblank hheader, hread]
  rfl

/-- Once the header and the tokens are read, the rest is what follows from the tokens. -/
theorem outcome_calculate_of_stages {ts : List (Token Number)} {negatives : List Int}
    (hblank : entry.isBlank = false) (hheader : (takeHeader p.delimiters entry).outcome = .ok (ds, t))
    (hread : (readTokens ds p.bound t).outcome = .ok (ts, negatives)) :
    (calculate p entry).outcome = conclude p ds ts negatives := by
  rw [outcome_calculate_of_header hblank hheader, hread]
  rfl

/-- **Every calculation goes one of four ways.** Its entry is blank, or its header is refused, or its tokens
    cannot be read, or it goes on from them. -/
theorem calculate_cases (p : Policy) (entry : Text) :
    (entry.isBlank ∧ (calculate p entry).outcome = .ok {})
    ∨ (∃ reason, (takeHeader p.delimiters entry).outcome = .error reason
      ∧ (calculate p entry).outcome = .error (.malformedHeader reason))
    ∨ (entry.isBlank = false ∧ ∃ ds t, (takeHeader p.delimiters entry).outcome = .ok (ds, t)
      ∧ ((∃ e, (readTokens ds p.bound t).outcome = .error e ∧ (calculate p entry).outcome = .error e)
        ∨ ∃ ts negatives, (readTokens ds p.bound t).outcome = .ok (ts, negatives)
          ∧ (calculate p entry).outcome = conclude p ds ts negatives)) := by
  cases hblank : entry.isBlank with
  | true => exact .inl ⟨rfl, outcome_calculate_of_isBlank hblank⟩
  | false =>
    refine .inr ?_
    cases hheader : (takeHeader p.delimiters entry).outcome with
    | error reason => exact .inl ⟨reason, rfl, outcome_calculate_of_header_error hheader⟩
    | ok header =>
      obtain ⟨ds, t⟩ := header
      refine .inr ⟨rfl, ds, t, rfl, ?_⟩
      cases hread : (readTokens ds p.bound t).outcome with
      | error e => exact .inl ⟨e, rfl, outcome_calculate_of_read_error hblank hheader hread⟩
      | ok read => exact .inr ⟨read.1, read.2, rfl, outcome_calculate_of_stages hblank hheader hread⟩

/-- A calculation that succeeds is that of a blank entry, or all its stages succeed. -/
theorem calculate_eq_ok {c : Calculation} (h : (calculate p entry).outcome = .ok c) :
    (entry.isBlank ∧ c = {}) ∨ ∃ ds t ts negatives, (takeHeader p.delimiters entry).outcome = .ok (ds, t)
      ∧ (readTokens ds p.bound t).outcome = .ok (ts, negatives) ∧ conclude p ds ts negatives = .ok c := by
  rcases calculate_cases p entry with
    ⟨hblank, hc⟩ | ⟨reason, -, hc⟩ | ⟨-, ds, t, hheader, ⟨e, -, hc⟩ | ⟨ts, negatives, hread, hc⟩⟩
  all_goals rw [hc] at h
  · cases h
    exact .inl ⟨hblank, rfl⟩
  · cases h
  · cases h
  · exact .inr ⟨ds, t, ts, negatives, hheader, hread, h⟩

/-- A calculation that fails has failed at its header, at its tokens, or in what follows from them. -/
theorem calculate_eq_error {e : CalculationError} (h : (calculate p entry).outcome = .error e) :
    (∃ reason, (takeHeader p.delimiters entry).outcome = .error reason ∧ e = .malformedHeader reason)
    ∨ ∃ ds t, (takeHeader p.delimiters entry).outcome = .ok (ds, t)
      ∧ ((readTokens ds p.bound t).outcome = .error e
        ∨ ∃ ts negatives, (readTokens ds p.bound t).outcome = .ok (ts, negatives)
          ∧ conclude p ds ts negatives = .error e) := by
  rcases calculate_cases p entry with
    ⟨-, hc⟩ | ⟨reason, hheader, hc⟩ | ⟨-, ds, t, hheader, ⟨e', hread, hc⟩ | ⟨ts, negatives, hread, hc⟩⟩
  all_goals rw [hc] at h
  · cases h
  · cases h
    exact .inl ⟨reason, hheader, rfl⟩
  · cases h
    exact .inr ⟨ds, t, hheader, .inl hread⟩
  · exact .inr ⟨ds, t, hheader, .inr ⟨ts, negatives, hread, h⟩⟩

end Outcome

/-! ## What follows from tokens -/

section Conclude

variable {p : Policy} {ds : Delimiters} {ts : List (Token Number)} {negatives : List Int}

/-- Negative values are refused ahead of everything else. -/
theorem conclude_of_refused (hrefuses : p.refusesNegatives) (hne : negatives ≠ []) :
    conclude p ds ts negatives = .error (.negativesNotAllowed negatives) :=
  if_pos ⟨hrefuses, hne⟩

/-- Without tokens there is nothing to calculate. -/
theorem conclude_of_no_tokens (hallowed : p.refusesNegatives → negatives = []) :
    conclude p ds [] negatives = .ok { trace := { delimiters := ds.display } } := by
  rw [conclude, if_neg (Decidable.not_and_not_right.2 hallowed), if_pos rfl]

/-- Tokens that cannot be put in order have parentheses that do not match. -/
theorem conclude_of_unordered (hallowed : p.refusesNegatives → negatives = []) (hne : ts ≠ [])
    (h : ReversePolish.ofTokens? ts = none) :
    conclude p ds ts negatives = .error .mismatchedParentheses := by
  rw [conclude, if_neg (Decidable.not_and_not_right.2 hallowed), if_neg hne, h]

/-- Tokens in order are evaluated. -/
theorem conclude_of_ordered (hallowed : p.refusesNegatives → negatives = []) (hne : ts ≠ [])
    {ordered : List (Token Number)} (h : ReversePolish.ofTokens? ts = some ordered) :
    conclude p ds ts negatives
      = (ReversePolish.evaluate ordered).map fun r =>
        { value := r.value
          formula := r.formula
          trace :=
            { delimiters := ds.display
              tokens := Token.display ts
              reversePolish := Token.display ordered } } := by
  rw [conclude, if_neg (Decidable.not_and_not_right.2 hallowed), if_neg hne, h]

end Conclude

/-- What follows from tokens has a value just if no value is refused and there are no tokens, or they can
    be put in order and evaluated. -/
theorem conclude_eq_ok_iff {p : Policy} {ds : Delimiters} {ts : List (Token Number)} {negatives : List Int}
    {c : Calculation} :
    conclude p ds ts negatives = .ok c
      ↔ (p.refusesNegatives → negatives = [])
        ∧ ((ts = [] ∧ c = { trace := { delimiters := ds.display } })
          ∨ ∃ ordered r, ts ≠ [] ∧ ReversePolish.ofTokens? ts = some ordered
            ∧ ReversePolish.evaluate ordered = .ok r
            ∧ c =
              { value := r.value
                formula := r.formula
                trace :=
                  { delimiters := ds.display
                    tokens := Token.display ts
                    reversePolish := Token.display ordered } }) := by
  constructor
  · intro h
    by_cases hneg : p.refusesNegatives ∧ negatives ≠ []
    · rw [conclude_of_refused hneg.1 hneg.2] at h
      cases h
    · have hallowed : p.refusesNegatives → negatives = [] := Decidable.not_and_not_right.1 hneg
      refine ⟨hallowed, ?_⟩
      by_cases hts : ts = []
      · rw [hts, conclude_of_no_tokens hallowed] at h
        cases h
        exact .inl ⟨hts, rfl⟩
      · cases hordered : ReversePolish.ofTokens? ts with
        | none =>
          rw [conclude_of_unordered hallowed hts hordered] at h
          cases h
        | some ordered =>
          rw [conclude_of_ordered hallowed hts hordered] at h
          cases hresult : ReversePolish.evaluate ordered with
          | error e =>
            rw [hresult] at h
            cases h
          | ok r =>
            rw [hresult] at h
            cases h
            exact .inr ⟨ordered, r, hts, rfl, hresult, rfl⟩
  · rintro ⟨hallowed, ⟨rfl, rfl⟩ | ⟨ordered, r, hts, hordered, hresult, rfl⟩⟩
    · exact conclude_of_no_tokens hallowed
    · rw [conclude_of_ordered hallowed hts hordered, hresult]
      rfl

end StringCalculator
