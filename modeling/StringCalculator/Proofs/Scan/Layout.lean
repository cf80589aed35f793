import StringCalculator.Proofs.Delimiters.Cut
import StringCalculator.Proofs.Scan.Acceptance

/-!
# `StringCalculator.Proofs.Scan.Layout` — layout that makes no difference

Two changes of a text that leave all that is read from it as it was. A plus may be doubled, since a plus is
dropped where an operand is due, and behind the first of the two one is. White space may be put in or taken
out wherever it does not divide a word or join two.

What stands in front of the change leads the scan to some state or to a fault, and what stands behind it may
be anything. So a change of lexemes has to make no difference from any state (`run_append_congr`), while a
change of white space makes none to the lexemes.

## Contents
- **`run_add_add`**, **`run_append_congr`**: a doubled plus from any state, and behind any beginning.
- **`lexemes_insert_of_isBlank`**: white space between two divided texts.
- **`readTokens_layout`**: both changes.
-/

namespace StringCalculator

namespace Scan

/-! ## Lexemes that make no difference -/

/-- Where an operand is due, a plus is dropped. -/
theorem run_operand_add (m : Bool) (ls : List Lexeme) :
    run (.operand m) (.operator .add :: ls) = run (.operand m) ls := by
  rw [run, Expecting.step]
  rfl

/-- **A second plus is dropped** in every state: behind a plus an operand is due. -/
theorem run_add_add (s : Expecting) (ls : List Lexeme) :
    run s (.operator .add :: .operator .add :: ls) = run s (.operator .add :: ls) := by
  cases s with
  | operand m => rw [run_operand_add]
  | operator =>
    show (run (.operand false) (.operator .add :: ls)).cons? _ = (run (.operand false) ls).cons? _
    rw [run_operand_add]

/-- Lexemes that are read alike from every state are read alike behind any others. -/
theorem run_append_congr {ls ls' : List Lexeme} (h : ∀ s, run s ls = run s ls') (ms : List Lexeme)
    (s : Expecting) : run s (ms ++ ls) = run s (ms ++ ls') := by
  induction ms generalizing s with
  | nil => exact h s
  | cons m ms ih =>
    rw [List.cons_append, List.cons_append, run, run]
    cases s.step m with
    | error fault => rfl
    | ok next => exact congrArg (cons? next.1) (ih next.2)

/-- Without delimiters a text is scanned as it stands. -/
theorem ofText_empty (t : Text) : ofText .empty t = run (.operand false) (lexemes t) := by
  rw [ofText, Delimiters.toPlus_empty]

end Scan

open Scan

/-- What is read from a text, and what the log tells of it, depends on its scan. -/
theorem readTokens_congr {ds ds' : Delimiters} {t t' : Text} (h : Scan.ofText ds t = Scan.ofText ds' t')
    (bound : Number) : readTokens ds bound t = readTokens ds' bound t' := by
  rw [readTokens, readTokens, h]

/-! ## White space that makes no difference -/

/-- White space between divided texts goes without a trace. -/
theorem lexemes_insert_of_isBlank {u w v : Text} (hw : w.isBlank) (h : Divided u v) :
    lexemes (u ++ w ++ v) = lexemes (u ++ v) := by
  cases w with
  | nil => rw [List.append_nil]
  | cons c w =>
    have hspace : isSpace c := List.all_eq_true.1 hw c List.mem_cons_self
    have hdivided : Divided u (c :: w ++ v) := by
      refine .inr ?_
      rintro d ⟨⟩
      exact .inl hspace
    rw [List.append_assoc, lexemes_append hdivided, lexemes_append_of_isBlank hw, lexemes_append h]

/-! ## Layout -/

/-- A plus divides any two texts. -/
theorem lexemes_append_add (u v : Text) : lexemes (u ++ '+' :: v) = lexemes u ++ .operator .add :: lexemes v := by
  have hdivided : Divided u ('+' :: v) := by
    refine .inr ?_
    rintro c ⟨⟩
    exact .inr List.mem_cons_self
  rw [lexemes_append hdivided]
  exact congrArg (lexemes u ++ ·) (lexemes_operator .add v)

/-- **Layout is no matter.** Without delimiters, a plus may be doubled in any text. White space may stand
    between two texts if the first is empty or ends with white space, an operator or a parenthesis, or the
    second is empty or begins with one of these. The tokens, the negative values and the fault are the same,
    and so is what the log tells of them. -/
theorem readTokens_layout (bound : Number) (u v : Text) :
    readTokens .empty bound (u ++ '+' :: v) = readTokens .empty bound (u ++ '+' :: '+' :: v)
    ∧ ∀ w : Text, w.isBlank → Divided u v →
      readTokens .empty bound (u ++ w ++ v) = readTokens .empty bound (u ++ v) := by
  constructor
  · apply readTokens_congr
    have hdouble : lexemes ('+' :: v) = .operator .add :: lexemes v := lexemes_operator .add v
    rw [ofText_empty, ofText_empty, lexemes_append_add, lexemes_append_add, hdouble]
    exact run_append_congr (fun s => (run_add_add s _).symm) (lexemes u) (.operand false)
  · intro w hw h
    apply readTokens_congr
    rw [ofText_empty, ofText_empty, lexemes_insert_of_isBlank hw h]

/-- A line feed and an ideographic space between a minus and its number, which begins with no separator. -/
theorem readTokens_layout_minus :
    Text.isBlank ['\n', '\u3000'] ∧ Divided "7*(-".toList "3)-".toList
    ∧ readTokens .empty 1000 ("7*(-".toList ++ ['\n', '\u3000'] ++ "3)-".toList)
      = readTokens .empty 1000 ("7*(-".toList ++ "3)-".toList)
    ∧ (readTokens .empty 1000 ("7*(-".toList ++ ['\n', '\u3000'] ++ "3)-".toList)).outcome
      = .ok ([.operand 7, .operator .mul, .lparen, .operand (-3), .rparen, .operator .sub, .operand 0],
          [-3]) := by
  have hblank : Text.isBlank ['\n', '\u3000'] := by decide
  have hdivided : Divided "7*(-".toList "3)-".toList := by
    refine .inl ?_
    rintro c ⟨⟩
    exact .inr (by decide)
  have hlayout := (readTokens_layout 1000 _ _).2 _ hblank hdivided
  refine ⟨hblank, hdivided, hlayout, ?_⟩
  rw [hlayout]
  decide +kernel

end StringCalculator
