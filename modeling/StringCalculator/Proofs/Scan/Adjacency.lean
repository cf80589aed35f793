import StringCalculator.Proofs.Delimiters.Cut
import StringCalculator.Proofs.ReversePolish.Adjacency
import StringCalculator.Proofs.Scan.Acceptance

/-!
# `StringCalculator.Proofs.Scan.Adjacency` — what a scan reads alternates

The automaton that scans lexemes waits for an operand or for an operator, and each token that it makes
begins or ends an operand accordingly. So operands begin just where they are due in whatever a scan
reads, with a fault at its end or without. The zero behind a last operator ends what that operator left
open; what can still be missing is the operand behind an opening parenthesis, and such a parenthesis has
no closing one. Hence tokens whose parentheses match are an expression.

## Contents
- **`Expecting.due`**: what the automaton waits for, as far as tokens show it.
- **`alternates_step`**, **`alternates_run`**: one lexeme, and all of them.
- **`alternates_of_readTokens`**: the tokens of a text.
- **`exists_derives_of_readTokens`**: tokens with matching parentheses are an expression.
- **`ofText_eq_of_isBlank`**, **`readTokens_eq_nil_of_isBlank`**: nothing is read from a blank text.
-/

namespace StringCalculator

/-- An operand is due. Whether a minus waits for it does not show in the tokens. -/
def Expecting.due : Expecting → Bool
  | operand _ => true
  | operator => false

namespace Scan

/-! ## Reading keeps the alternation -/

/-- One lexeme leads from what is due in front of it to what is due behind it. -/
theorem alternates_step {s s' : Expecting} {l : Lexeme} {token? : Option (Token Reading)}
    (h : s.step l = .ok (token?, s')) : Alternates s.due token?.toList s'.due := by
  cases s with
  | operand m =>
    rcases step_operand_eq_ok h with
      ⟨w, -, rfl, rfl⟩ | ⟨-, rfl, rfl⟩ | ⟨-, -, rfl, rfl⟩ | ⟨-, -, rfl, rfl⟩
    · exact .cons rfl .nil
    · exact .nil
    · exact .nil
    · exact .cons rfl .nil
  | operator =>
    rcases step_operator_eq_ok h with ⟨o, -, rfl, rfl⟩ | ⟨-, rfl, rfl⟩
    · exact .cons rfl .nil
    · exact .cons rfl .nil

/-- **What a scan reads alternates**, up to the end of the lexemes or the first fault. -/
theorem alternates_run (s : Expecting) (ls : List Lexeme) : ∃ due, Alternates s.due (run s ls).read due := by
  induction ls generalizing s with
  | nil => exact ⟨s.due, .nil⟩
  | cons l ls ih =>
    cases hstep : s.step l with
    | error fault =>
      rw [run, hstep]
      exact ⟨s.due, .nil⟩
    | ok next =>
      obtain ⟨token?, s'⟩ := next
      obtain ⟨due, hrest⟩ := ih s'
      rw [run, hstep]
      exact ⟨due, (alternates_step hstep).append hrest⟩

/-- The final zero stands where an operand is due, and no operator is left at the end. -/
theorem alternates_withFinalZero {ts : List (Token Number)} {due : Bool} (h : Alternates true ts due) :
    ∃ due', Alternates true (withFinalZero ts) due'
      ∧ ∀ o, (withFinalZero ts).getLast? ≠ some (.operator o) := by
  unfold withFinalZero
  by_cases hlast : (ts.getLast?.any Token.isOperator) = true
  · rw [if_pos hlast]
    obtain ⟨t, ht, hoperator⟩ := (Option.any_eq_true _ _).1 hlast
    -- behind an operator an operand is due
    have hdue : due = true := by
      rw [h.due_of_getLast? ht]
      cases t <;> simp_all [Token.isOperator, Token.endsOperand]
    subst hdue
    exact ⟨false, h.append (.cons rfl .nil), by simp⟩
  · rw [if_neg hlast]
    refine ⟨due, h, ?_⟩
    intro o ho
    rw [ho] at hlast
    exact hlast rfl

end Scan

open Scan

/-- **Tokens that were read alternate**, and they do not end with an operator. -/
theorem alternates_of_readTokens {ds : Delimiters} {bound : Number} {t : Text} {ts : List (Token Number)}
    {negatives : List Int} (h : (readTokens ds bound t).outcome = .ok (ts, negatives)) :
    ∃ due, Alternates true ts due ∧ ∀ o, ts.getLast? ≠ some (.operator o) := by
  obtain ⟨-, rfl, -⟩ := readTokens_eq_ok_iff.1 h
  obtain ⟨due, hread⟩ := alternates_run (.operand false) (lexemes (ds.toPlus t))
  exact alternates_withFinalZero (hread.map (Reading.number bound))

/-! ## Tokens as an expression -/

/-- **Only parentheses can be wrong with tokens.** Tokens that were read, if there are any, are derived
    by the grammar once their parentheses match. -/
theorem exists_derives_of_readTokens {ds : Delimiters} {bound : Number} {t : Text}
    {ts : List (Token Number)} {negatives : List Int}
    (hread : (readTokens ds bound t).outcome = .ok (ts, negatives)) (hne : ts ≠ [])
    (hbalanced : Balanced .lparen .rparen ts) : ∃ e, Derives .sum ts e := by
  obtain ⟨due, hts, hoperator⟩ := alternates_of_readTokens hread
  -- the last token ends an operand: it is no operator, and no parenthesis is left open
  have hlparen := getLast?_ne_lparen_of_balanced hbalanced
  have hdue : due = false := by
    cases hlast : ts.getLast? with
    | none => exact absurd (List.getLast?_eq_none_iff.1 hlast) hne
    | some last =>
      rw [hts.due_of_getLast? hlast]
      cases last with
      | operand n => rfl
      | operator o => exact absurd hlast (hoperator o)
      | lparen => exact absurd hlast hlparen
      | rparen => rfl
  subst hdue
  exact exists_derives_of_alternates hts hbalanced

/-! ## Blank texts -/

/-- White space and plus signs make no lexemes but plus signs. -/
theorem lexemes_eq_replicate {t : Text} (h : ∀ c ∈ t, c = '+' ∨ isSpace c) :
    ∃ k, lexemes t = List.replicate k (.operator .add) := by
  induction t with
  | nil => exact ⟨0, by simp [lexemes]⟩
  | cons c t ih =>
    obtain ⟨k, hk⟩ := ih fun d hd => h d (List.mem_cons_of_mem c hd)
    rcases h c List.mem_cons_self with rfl | hspace
    · refine ⟨k + 1, ?_⟩
      rw [List.replicate_succ, ← hk]
      exact lexemes_operator .add t
    · exact ⟨k, by rw [lexemes_cons_of_isSpace hspace, hk]⟩

/-- **Nothing is read from a blank text**, whatever the delimiters are. -/
theorem ofText_eq_of_isBlank (ds : Delimiters) {t : Text} (hblank : t.isBlank) : Scan.ofText ds t = {} := by
  have hchars : ∀ c ∈ ds.toPlus t, c = '+' ∨ isSpace c := by
    intro c hc
    exact (Delimiters.mem_toPlus hc).imp_right fun hmem => List.all_eq_true.1 hblank c hmem
  obtain ⟨k, hk⟩ := lexemes_eq_replicate hchars
  have hopening : Sentence.IsOpening (List.replicate k (.operator .add)) := by
    intro l hl
    exact .inl (List.eq_of_mem_replicate hl)
  have hpasses := passes_opening hopening []
  rw [List.append_nil] at hpasses
  rw [Scan.ofText, hk, hpasses]
  simp [run, Sentence.kept]

/-- So it has no tokens. -/
theorem readTokens_eq_nil_of_isBlank {ds : Delimiters} {bound : Number} {t : Text}
    {ts : List (Token Number)} {negatives : List Int} (hblank : t.isBlank)
    (hread : (readTokens ds bound t).outcome = .ok (ts, negatives)) : ts = [] := by
  obtain ⟨-, rfl, -⟩ := readTokens_eq_ok_iff.1 hread
  rw [ofText_eq_of_isBlank ds hblank]
  rfl

end StringCalculator
