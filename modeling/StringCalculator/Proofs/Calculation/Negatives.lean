import StringCalculator.Proofs.Calculation.Failure
import StringCalculator.Proofs.Scan.Literal

/-!
# `StringCalculator.Proofs.Calculation.Negatives` — what refusing negative numbers changes

The switch of a policy that refuses negative numbers is looked at in one place, behind the tokens and in
front of everything that follows from them. So it can only add a refusal: what fails earlier fails all the
same, and where there is nothing to refuse the rest goes on as without it.

`calculate_eq_negativesNotAllowed_iff` tells the refusal in terms of the scan. No bound occurs in it, since
a scan tells exact values; what the values are is known from the literals of the expression.

## Contents
- **`calculate_eq_negativesNotAllowed_iff`**: when a calculation is refused, and with which values.
- **`calculate_refusing_eq`**: a calculation that is not refused.
- **`calculate_negatives_switch`**: the two settings of the switch compared.
-/

namespace StringCalculator

variable {p : Policy} {entry : Text} {l : List Int}

/-! ## The refusal -/

/-- Where there are no negative values, no policy refuses any. -/
theorem conclude_nil (p q : Policy) (ds : Delimiters) (ts : List (Token Number)) :
    conclude p ds ts [] = conclude q ds ts [] := by
  have hallowed (p : Policy) : ¬(p.refusesNegatives ∧ ([] : List Int) ≠ []) := fun hrefused => hrefused.2 rfl
  rw [conclude, conclude, if_neg (hallowed p), if_neg (hallowed q)]

/-- What follows from tokens that were read is a refusal just if there is something to refuse. -/
theorem conclude_eq_negativesNotAllowed_iff {ds : Delimiters} {bound : Number} {t : Text}
    {ts : List (Token Number)} {negatives : List Int}
    (hread : (readTokens ds bound t).outcome = .ok (ts, negatives)) :
    conclude p ds ts negatives = .error (.negativesNotAllowed l)
      ↔ p.refusesNegatives ∧ l ≠ [] ∧ l = negatives := by
  by_cases hrefused : p.refusesNegatives ∧ negatives ≠ []
  · rw [conclude_of_refused hrefused.1 hrefused.2]
    constructor
    · intro h
      cases h
      exact ⟨hrefused.1, hrefused.2, rfl⟩
    · rintro ⟨-, -, rfl⟩
      rfl
  · have hallowed : p.refusesNegatives → negatives = [] := Decidable.not_and_not_right.1 hrefused
    constructor
    · intro h
      rcases conclude_of_readTokens hread hallowed with (⟨c, hc⟩ | hc | hc) | hc
      all_goals
        rw [hc] at h
        cases h
    · rintro ⟨hrefuses, hne, rfl⟩
      exact absurd (hallowed hrefuses) hne

/-- **When a calculation is refused.** The policy refuses, the entry is not blank, its header is accepted
    and its tokens are read, and there are negative values; these are told, and nothing behind them is
    looked at. -/
theorem calculate_eq_negativesNotAllowed_iff :
    (calculate p entry).outcome = .error (.negativesNotAllowed l)
      ↔ p.refusesNegatives ∧ entry.isBlank = false ∧ l ≠ []
        ∧ ∃ ds t, (takeHeader p.delimiters entry).outcome = .ok (ds, t)
          ∧ (Scan.ofText ds t).fault? = none ∧ l = (Scan.ofText ds t).negatives := by
  constructor
  · intro h
    rcases calculate_cases p entry with
      ⟨-, hc⟩ | ⟨reason, -, hc⟩ | ⟨hblank, ds, t, hheader, ⟨e, hread, hc⟩ | ⟨ts, negatives, hread, hc⟩⟩
    all_goals rw [hc] at h
    · cases h
    · cases h
    · -- what is read or not is no matter of negative values
      rw [outcome_readTokens] at hread
      split at hread
      · cases hread
        cases h
      · cases hread
    · obtain ⟨hrefuses, hne, rfl⟩ := (conclude_eq_negativesNotAllowed_iff hread).1 h
      obtain ⟨hfault, -, hnegatives⟩ := readTokens_eq_ok_iff.1 hread
      exact ⟨hrefuses, hblank, hne, ds, t, hheader, hfault, hnegatives⟩
  · rintro ⟨hrefuses, hblank, hne, ds, t, hheader, hfault, hnegatives⟩
    have hread : (readTokens ds p.bound t).outcome = .ok ((Scan.ofText ds t).tokens p.bound, l) :=
      readTokens_eq_ok_iff.2 ⟨hfault, rfl, hnegatives⟩
    rw [outcome_calculate_of_stages hblank hheader hread]
    exact (conclude_eq_negativesNotAllowed_iff hread).2 ⟨hrefuses, hne, rfl⟩

/-- **Where nothing is refused the switch makes no difference**, not even to the trace. -/
theorem calculate_refusing_eq
    (h : ∀ l, (calculate { p with refusesNegatives := true } entry).outcome
      ≠ .error (.negativesNotAllowed l)) :
    (calculate { p with refusesNegatives := true } entry).outcome
      = (calculate { p with refusesNegatives := false } entry).outcome := by
  let accepting : Policy := { p with refusesNegatives := false }
  rcases calculate_cases { p with refusesNegatives := true } entry with
    ⟨hblank, hc⟩ | ⟨reason, hheader, hc⟩ | ⟨hblank, ds, t, hheader, ⟨e, hread, hc⟩ | ⟨ts, negatives, hread, hc⟩⟩
  all_goals rw [hc]
  · exact (outcome_calculate_of_isBlank hblank).symm
  · exact (outcome_calculate_of_header_error (p := accepting) hheader).symm
  · exact (outcome_calculate_of_read_error (p := accepting) hblank hheader hread).symm
  · have hnone : negatives = [] := by
      apply Classical.byContradiction
      intro hne
      exact h negatives (hc.trans (conclude_of_refused rfl hne))
    subst hnone
    rw [outcome_calculate_of_stages (p := accepting) hblank hheader hread]
    exact conclude_nil _ accepting ds ts

/-! ## The two settings -/

/-- **The switch adds one refusal and nothing else.** A policy that accepts negative numbers never refuses
    any. One that refuses them has the same outcome, trace included, or it tells the negative values: a
    non-empty list without repetition, the values of the negative literals, whatever the bound is. This
    happens just if the entry is not blank, its header is accepted, its tokens are read and it has a
    negative literal, no matter what would follow from the tokens. -/
theorem calculate_negatives_switch (p : Policy) (entry : Text) :
    let refusing : Policy := { p with refusesNegatives := true }
    let accepting : Policy := { p with refusesNegatives := false }
    (∀ l, (calculate accepting entry).outcome ≠ .error (.negativesNotAllowed l))
    ∧ ((calculate refusing entry).outcome = (calculate accepting entry).outcome
      ∨ ∃ l, (calculate refusing entry).outcome = .error (.negativesNotAllowed l))
    ∧ ((∃ l, (calculate refusing entry).outcome = .error (.negativesNotAllowed l)) ↔
        entry.isBlank = false ∧ ∃ ds t, (takeHeader p.delimiters entry).outcome = .ok (ds, t)
          ∧ (∃ result, (readTokens ds p.bound t).outcome = .ok result) ∧ ∃ v, v < 0 ∧ Literal ds t v)
    ∧ ∀ l, (calculate refusing entry).outcome = .error (.negativesNotAllowed l) →
        l ≠ [] ∧ l.Nodup ∧ (∀ v ∈ l, v < 0)
        ∧ (∃ ds t, (takeHeader p.delimiters entry).outcome = .ok (ds, t)
          ∧ ∀ v, v ∈ l ↔ v < 0 ∧ Literal ds t v)
        ∧ ∀ bound, (calculate { refusing with bound := bound } entry).outcome
          = .error (.negativesNotAllowed l) := by
  intro refusing accepting
  refine ⟨?_, ?_, ?_, ?_⟩
  · intro l h
    obtain ⟨hrefuses, -⟩ := calculate_eq_negativesNotAllowed_iff.1 h
    cases hrefuses
  · by_cases h : ∃ l, (calculate refusing entry).outcome = .error (.negativesNotAllowed l)
    · exact .inr h
    · exact .inl (calculate_refusing_eq (not_exists.1 h))
  · constructor
    · rintro ⟨l, h⟩
      obtain ⟨-, hblank, hne, ds, t, hheader, hfault, rfl⟩ := calculate_eq_negativesNotAllowed_iff.1 h
      obtain ⟨v, hv⟩ := List.exists_mem_of_ne_nil _ hne
      exact ⟨hblank, ds, t, hheader, ⟨_, readTokens_eq_ok_iff.2 ⟨hfault, rfl, rfl⟩⟩, v,
        mem_negatives_ofText.1 hv⟩
    · rintro ⟨hblank, ds, t, hheader, ⟨⟨ts, negatives⟩, hread⟩, v, hv⟩
      obtain ⟨hfault, -, -⟩ := readTokens_eq_ok_iff.1 hread
      have hne : (Scan.ofText ds t).negatives ≠ [] := List.ne_nil_of_mem (mem_negatives_ofText.2 hv)
      exact ⟨_, calculate_eq_negativesNotAllowed_iff.2 ⟨rfl, hblank, hne, ds, t, hheader, hfault, rfl⟩⟩
  · intro l h
    obtain ⟨-, hblank, hne, ds, t, hheader, hfault, rfl⟩ := calculate_eq_negativesNotAllowed_iff.1 h
    have hmem (v : Int) : v ∈ (Scan.ofText ds t).negatives ↔ v < 0 ∧ Literal ds t v := mem_negatives_ofText
    refine ⟨hne, nodup_eraseDups _, fun v hv => ((hmem v).1 hv).1, ⟨ds, t, hheader, hmem⟩, ?_⟩
    intro bound
    exact calculate_eq_negativesNotAllowed_iff.2 ⟨rfl, hblank, hne, ds, t, hheader, hfault, rfl⟩

/-- A value out of range and one beyond the bound are told under every bound; a subtraction, a negative
    zero and a word are not. The division by zero and the open parenthesis come too late. -/
theorem calculate_negatives_switch_clamped :
    (∀ bound, (calculate { bound := bound } "(5-2,-9223372036854775809/0,-7000,-0,-x".toList).outcome
      = .error (.negativesNotAllowed [-9223372036854775809, -7000]))
    ∧ (calculate { refusesNegatives := false } "(5-2,-9223372036854775809/0,-7000,-0,-x".toList).outcome
      = .error .mismatchedParentheses := by
  have hrefused : (calculate {} "(5-2,-9223372036854775809/0,-7000,-0,-x".toList).outcome
      = .error (.negativesNotAllowed [-9223372036854775809, -7000]) := by decide +kernel
  obtain ⟨-, -, -, htold⟩ := calculate_negatives_switch {} "(5-2,-9223372036854775809/0,-7000,-0,-x".toList
  obtain ⟨-, -, -, -, hbound⟩ := htold _ hrefused
  exact ⟨hbound, by decide +kernel⟩

end StringCalculator
