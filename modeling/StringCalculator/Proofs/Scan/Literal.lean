import StringCalculator.Proofs.Scan.Acceptance

/-!
# `StringCalculator.Proofs.Scan.Literal` — the literals of an expression

Which words of a text are read as operands, and with which sign, told without the automaton: a word is an
operand if whole clauses and a lead stand in front of it, and the minus of that lead belongs to it. What
follows is no matter, so the words in front of a fault count too.

A literal is an operand that is a numeral. Its value is exact; no bound applies to it. The negative values
that a scan tells are those of the literals, and since every other word counts as zero, no word that is no
numeral is among them, nor is the operand of a subtraction.

## Contents
- **`Sentence.Operand`**: the words that are operands; **`mem_readings_run`**: a run reads these.
- **`Literal`**: the literals of a text, with their exact values.
- **`mem_negatives_ofText`**: which negative values a scan tells.
-/

namespace StringCalculator

open scoped Computability

open Sentence

/-! ## Operands -/

/-- Behind whole clauses and a lead, the word stands as an operand, negated if the lead has a minus. -/
def Sentence.Operand (ls : List Lexeme) (w : Text) (negated : Bool) : Prop :=
  ∃ front a rest, ls = front ++ (a ++ .operand w :: rest)
    ∧ front ∈ (lead * word * rparen∗ * operator)∗ ∧ a ∈ lead ∧ negates a = negated

namespace Scan

/-- An operand is read, whatever follows it. -/
theorem mem_readings_of_operand {ls : List Lexeme} {w : Text} {negated : Bool}
    (h : Operand ls w negated) : ⟨w, negated⟩ ∈ (run (.operand false) ls).readings := by
  obtain ⟨front, a, rest, rfl, hfront, ha, rfl⟩ := h
  obtain ⟨ts, hclauses⟩ := (mem_clauses_iff 0).1 hfront
  obtain ⟨rs, -, hpasses⟩ := passes_clauses hclauses
  -- clauses and lead lead to a state where the word is due, with the minus of the lead
  have hword : Passes (.operand (negates a)) [.operand w] [.operand ⟨w, negates a⟩] .operator :=
    .token rfl .nil
  have hrun := hpasses.append ((passes_lead ha).append hword) rest
  rw [List.append_assoc, List.append_assoc, List.singleton_append] at hrun
  rw [hrun, readings]
  simp [Token.operand?]

/-- Behind any beginning of a sentence, what a run reads stands as an operand in the whole. -/
theorem operand_of_reached {bound : Number} {s : Expecting} {p ls : List Lexeme} {q : List (Token Number)}
    {r : Reading} (h : Reached bound s p q) (hr : r ∈ (run s ls).readings) :
    Operand (p ++ ls) r.word r.negated := by
  induction ls generalizing s p q with
  | nil => cases hr
  | cons l ls ih =>
    cases hstep : s.step l with
    | error fault =>
      rw [run, hstep] at hr
      cases hr
    | ok next =>
      obtain ⟨token?, s'⟩ := next
      rw [run, hstep] at hr
      have hsplit : r ∈ token?.toList.filterMap Token.operand? ∨ r ∈ (run s' ls).readings := by
        rw [← List.mem_append, readings, ← List.filterMap_append]
        exact hr
      rcases hsplit with hhere | hlater
      · -- only a word makes an operand, and only where one is due
        cases h with
        | @operand front ts a hfront ha =>
          rcases step_operand_eq_ok hstep with ⟨w, rfl, rfl, -⟩ | ⟨-, rfl, -⟩ | ⟨-, -, rfl, -⟩ | ⟨-, -, rfl, -⟩
          · obtain rfl : r = ⟨w, negates a⟩ := List.mem_singleton.1 hhere
            exact ⟨front, a, ls, by simp, (mem_clauses_iff bound).2 ⟨ts, hfront⟩, ha, rfl⟩
          · cases hhere
          · cases hhere
          · cases hhere
        | operator _ _ =>
          rcases step_operator_eq_ok hstep with ⟨o, -, rfl, -⟩ | ⟨-, rfl, -⟩
          · cases hhere
          · cases hhere
      · have htail := ih (h.step hstep) hlater
        rwa [List.append_assoc] at htail

/-- **A run reads the operands**, up to its end or to its first fault. -/
theorem mem_readings_run {ls : List Lexeme} {r : Reading} :
    r ∈ (run (.operand false) ls).readings ↔ Operand ls r.word r.negated := by
  constructor
  · intro hr
    have hstart : Reached 0 (.operand false) [] [] := .clauses .nil
    exact operand_of_reached hstart hr
  · exact mem_readings_of_operand

end Scan

/-! ## Literals -/

/-- Under the delimiters, a numeral with this exact value stands as an operand in the text. -/
def Literal (ds : Delimiters) (t : Text) (v : Int) : Prop :=
  ∃ ls w negated, Lexes (ds.toPlus t) ls ∧ Operand ls w negated ∧ (∀ c ∈ w, c.isDigit)
    ∧ v = if negated then -(Decimal.toNat w : Int) else Decimal.toNat w

/-- A reading with a negative value is that of a literal. -/
theorem Reading.isNumeral_of_value_neg {r : Reading} (h : r.value < 0) : ∀ c ∈ r.word, c.isDigit := by
  by_cases hnumeral : Decimal.isNumeral r.word
  · exact List.all_eq_true.1 hnumeral
  · -- any other word has the value zero
    have hzero : r.magnitude = 0 := if_neg hnumeral
    have habs := r.natAbs_value
    omega

/-- The value of a numeral is exact. -/
theorem Reading.value_of_isNumeral {r : Reading} (h : ∀ c ∈ r.word, c.isDigit) :
    r.value = if r.negated then -(Decimal.toNat r.word : Int) else Decimal.toNat r.word := by
  have hmagnitude : r.magnitude = Decimal.toNat r.word := if_pos (List.all_eq_true.2 h)
  rw [value, hmagnitude]

/-- **The negative values that are told** are those of the negative literals. -/
theorem mem_negatives_ofText {ds : Delimiters} {t : Text} {v : Int} :
    v ∈ (Scan.ofText ds t).negatives ↔ v < 0 ∧ Literal ds t v := by
  rw [Scan.negatives, List.mem_eraseDups, List.mem_filter, List.mem_map, decide_eq_true_eq, and_comm]
  refine and_congr_right fun hneg => ?_
  constructor
  · rintro ⟨r, hr, rfl⟩
    have hnumeral := r.isNumeral_of_value_neg hneg
    exact ⟨_, r.word, r.negated, lexes_lexemes _, Scan.mem_readings_run.1 hr, hnumeral,
      Reading.value_of_isNumeral hnumeral⟩
  · rintro ⟨ls, w, negated, hlexes, hoperand, hnumeral, rfl⟩
    rw [hlexes.eq_lexemes] at hoperand
    exact ⟨⟨w, negated⟩, Scan.mem_readings_run.2 hoperand, Reading.value_of_isNumeral hnumeral⟩

end StringCalculator
