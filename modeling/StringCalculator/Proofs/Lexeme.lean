import StringCalculator.Lexeme

/-!
# `StringCalculator.Proofs.Lexeme` — what the lexemes of a text are

White space is skipped, each operator and each parenthesis is a lexeme, and each maximal run of other
characters is a word. `Lexes` says this with one rule for each case and no word about how a text is
cut; a word is maximal since it may only end in front of a separator or at the end of the text.

The rules determine the lexemes, and cutting finds them. Proofs about written texts build a derivation
by the rules instead of running the cut.

## Contents
- **`Separator`**: the characters that end a word.
- **`Lexes`**: the lexemes of a text, by rules.
- **`lexes_iff`**: the rules hold of one list of lexemes, the one that is cut.
- **`Divided`**, **`Lexes.append`**, **`lexemes_append`**: two texts with no word across the place where they
  are put together.
-/

namespace StringCalculator

/-- The character ends a word: white space, an operator or a parenthesis. -/
def Separator (c : Char) : Prop := isSpace c ∨ c ∈ ['+', '-', '*', '/', '(', ')']

instance (c : Char) : Decidable (Separator c) := inferInstanceAs (Decidable (_ ∨ _))

/-- The lexemes of a text, by rules. -/
inductive Lexes : Text → List Lexeme → Prop
  | nil : Lexes [] []
  | space {c t ls} : isSpace c → Lexes t ls → Lexes (c :: t) ls
  | operator {t ls} (o : Operator) : Lexes t ls → Lexes (o.symbol :: t) (.operator o :: ls)
  | lparen {t ls} : Lexes t ls → Lexes ('(' :: t) (.lparen :: ls)
  | rparen {t ls} : Lexes t ls → Lexes (')' :: t) (.rparen :: ls)
  | word {w t ls} : w ≠ [] → (∀ c ∈ w, ¬Separator c) → (∀ c, t.head? = some c → Separator c) →
      Lexes t ls → Lexes (w ++ t) (.operand w :: ls)

/-! ## Single characters -/

/-- A character that is a lexeme by itself is the text of an operator or a parenthesis. -/
theorem Lexeme.ofChar?_eq_some {c : Char} {l : Lexeme} (h : ofChar? c = some l) :
    (∃ o : Operator, c = o.symbol ∧ l = .operator o) ∨ (c = '(' ∧ l = .lparen)
      ∨ (c = ')' ∧ l = .rparen) := by
  unfold ofChar? at h
  split at h
  · exact .inl ⟨.add, rfl, (Option.some.inj h).symm⟩
  · exact .inl ⟨.sub, rfl, (Option.some.inj h).symm⟩
  · exact .inl ⟨.mul, rfl, (Option.some.inj h).symm⟩
  · exact .inl ⟨.div, rfl, (Option.some.inj h).symm⟩
  · exact .inr (.inl ⟨rfl, (Option.some.inj h).symm⟩)
  · exact .inr (.inr ⟨rfl, (Option.some.inj h).symm⟩)
  · cases h

theorem Lexeme.ofChar?_isSome_iff {c : Char} :
    (ofChar? c).isSome ↔ c ∈ ['+', '-', '*', '/', '(', ')'] := by
  constructor
  · intro h
    obtain ⟨l, hl⟩ := Option.isSome_iff_exists.1 h
    rcases ofChar?_eq_some hl with ⟨o, rfl, -⟩ | ⟨rfl, -⟩ | ⟨rfl, -⟩
    · cases o <;> decide
    · decide
    · decide
  · intro h
    simp only [List.mem_cons, List.not_mem_nil, or_false] at h
    rcases h with rfl | rfl | rfl | rfl | rfl | rfl <;> rfl

theorem isWordChar_iff {c : Char} : isWordChar c ↔ ¬Separator c := by
  rw [isWordChar, Separator, ← Lexeme.ofChar?_isSome_iff]
  cases isSpace c <;> cases Lexeme.ofChar? c <;> simp

/-- Digits do not end a word. -/
theorem not_separator_of_isDigit {c : Char} (h : c.isDigit) : ¬Separator c := by
  have hrange : 48 ≤ c.toNat ∧ c.toNat ≤ 57 := by
    simpa [Char.isDigit, UInt32.le_iff_toNat_le] using h
  rintro (hspace | hlexeme)
  · simp [isSpace, inRanges, whiteSpaceRanges] at hspace
    omega
  · simp only [List.mem_cons, List.not_mem_nil, or_false] at hlexeme
    rcases hlexeme with rfl | rfl | rfl | rfl | rfl | rfl <;> revert h <;> decide

/-! ## Cutting follows the rules -/

theorem lexemes_operator (o : Operator) (t : Text) :
    lexemes (o.symbol :: t) = .operator o :: lexemes t := by
  have hspace : isSpace o.symbol = false := by cases o <;> decide
  have hlexeme : Lexeme.ofChar? o.symbol = some (.operator o) := by cases o <;> rfl
  simp [lexemes, hspace, hlexeme]

theorem lexemes_lparen (t : Text) : lexemes ('(' :: t) = .lparen :: lexemes t := by
  simp [lexemes, show isSpace '(' = false by decide, Lexeme.ofChar?]

theorem lexemes_rparen (t : Text) : lexemes (')' :: t) = .rparen :: lexemes t := by
  simp [lexemes, show isSpace ')' = false by decide, Lexeme.ofChar?]

/-- A word is cut where the next separator stands. -/
theorem lexemes_word {w t : Text} (hne : w ≠ []) (hw : ∀ c ∈ w, ¬Separator c)
    (ht : ∀ c, t.head? = some c → Separator c) : lexemes (w ++ t) = .operand w :: lexemes t := by
  have hword : ∀ c ∈ w, isWordChar c := by
    intro c hc
    exact isWordChar_iff.2 (hw c hc)
  -- behind the word nothing is taken, since a separator or nothing stands there
  have hstop : t.takeWhile isWordChar = [] ∧ t.dropWhile isWordChar = t := by
    cases t with
    | nil => exact ⟨rfl, rfl⟩
    | cons c t =>
      have hc : isWordChar c = false := by
        rw [Bool.eq_false_iff]
        intro h
        exact isWordChar_iff.1 h (ht c rfl)
      simp [hc]
  obtain ⟨c, w, rfl⟩ := List.exists_cons_of_ne_nil hne
  have hc := hword c (by simp)
  simp only [isWordChar, Bool.and_eq_true, Bool.not_eq_true', Option.isNone_iff_eq_none] at hc
  have htail : ∀ d ∈ w, isWordChar d := fun d hd => hword d (by simp [hd])
  rw [List.cons_append, lexemes, if_neg (by simp [hc.1])]
  simp only [hc.2]
  rw [List.takeWhile_append_of_pos htail, List.dropWhile_append_of_pos htail, hstop.1, hstop.2,
    List.append_nil]

/-- The rules derive nothing but what is cut. -/
theorem Lexes.eq_lexemes {t : Text} {ls : List Lexeme} (h : Lexes t ls) : ls = lexemes t := by
  induction h with
  | nil => simp [lexemes]
  | space hc _ ih => rw [ih, lexemes_cons_of_isSpace hc]
  | operator o _ ih => rw [ih, lexemes_operator]
  | lparen _ ih => rw [ih, lexemes_lparen]
  | rparen _ ih => rw [ih, lexemes_rparen]
  | word hne hw ht _ ih => rw [ih, lexemes_word hne hw ht]

/-- What is cut is derived by the rules. -/
theorem lexes_lexemes (t : Text) : Lexes t (lexemes t) := by
  fun_induction lexemes t with
  | case1 => exact .nil
  | case2 c t hc ih => exact .space hc ih
  | case3 c t _ l hl ih =>
    rcases Lexeme.ofChar?_eq_some hl with ⟨o, rfl, rfl⟩ | ⟨rfl, rfl⟩ | ⟨rfl, rfl⟩
    · exact .operator o ih
    · exact .lparen ih
    · exact .rparen ih
  | case4 c t hc hl ih =>
    have hsplit : c :: t = (c :: t.takeWhile isWordChar) ++ t.dropWhile isWordChar := by
      rw [List.cons_append, List.takeWhile_append_dropWhile]
    rw [hsplit]
    refine .word (by simp) ?_ ?_ ih
    · intro d hd
      rw [← isWordChar_iff]
      rcases List.mem_cons.1 hd with rfl | hd
      · simp [isWordChar, hc, hl]
      · exact List.all_eq_true.1 List.all_takeWhile d hd
    · -- the run of word characters is the longest one, so it ends at a separator
      intro d hd
      apply Classical.byContradiction
      intro hsep
      have hdrop := List.head?_dropWhile_not isWordChar t
      simp [hd, isWordChar_iff.2 hsep] at hdrop

/-- **The lexemes of a text are determined**, and they are the ones that are cut. -/
theorem lexes_iff {t : Text} {ls : List Lexeme} : Lexes t ls ↔ ls = lexemes t :=
  ⟨Lexes.eq_lexemes, fun h => h ▸ lexes_lexemes t⟩

/-! ## Texts put together -/

/-- White space in front changes no lexemes. -/
theorem Lexes.append_of_isBlank {s t : Text} {ls : List Lexeme} (hs : s.isBlank) (h : Lexes t ls) :
    Lexes (s ++ t) ls := by
  induction s with
  | nil => exact h
  | cons c s ih =>
    have hchars := List.all_eq_true.1 hs
    apply Lexes.space (hchars c List.mem_cons_self)
    apply ih
    exact List.all_eq_true.2 fun d hd => hchars d (List.mem_cons_of_mem c hd)

/-- No word reaches from the first text into the second: the first is empty or ends with a separator, or the
    second is empty or begins with one. -/
def Divided (s t : Text) : Prop :=
  (∀ c, s.getLast? = some c → Separator c) ∨ ∀ c, t.head? = some c → Separator c

/-- What is left of the first text is still divided from the second. -/
theorem Divided.of_append {r s t : Text} (h : Divided (r ++ s) t) : Divided s t := by
  refine h.imp_left fun hlast c hc => hlast c ?_
  rw [List.getLast?_append, hc, Option.some_or]

/-- A word is divided from what begins with a separator, and from nothing else. -/
theorem Divided.of_word {w t : Text} (h : Divided w t) (hne : w ≠ []) (hw : ∀ c ∈ w, ¬Separator c) :
    ∀ c, t.head? = some c → Separator c := by
  refine h.resolve_left fun hlast => ?_
  exact hw _ (List.getLast_mem hne) (hlast _ (List.getLast?_eq_some_getLast hne))

/-- **Divided texts are cut apart**: the lexemes of both are those of the one in front of those of the other. -/
theorem Lexes.append {s t : Text} {ls ms : List Lexeme} (h : Lexes s ls) (h' : Lexes t ms)
    (hdivided : Divided s t) : Lexes (s ++ t) (ls ++ ms) := by
  induction h with
  | nil => exact h'
  | @space c s ls hc _ ih => exact .space hc (ih (hdivided.of_append (r := [c])))
  | @operator s ls o _ ih => exact .operator o (ih (hdivided.of_append (r := [o.symbol])))
  | lparen _ ih => exact .lparen (ih (hdivided.of_append (r := ['('])))
  | rparen _ ih => exact .rparen (ih (hdivided.of_append (r := [')'])))
  | @word w s ls hne hw hs _ ih =>
    rw [List.append_assoc]
    refine .word hne hw ?_ (ih hdivided.of_append)
    cases s with
    | nil =>
      -- the word ends the first text, so the second decides where it stops
      rw [List.append_nil] at hdivided
      exact hdivided.of_word hne hw
    | cons c s => exact hs

theorem lexemes_append {s t : Text} (h : Divided s t) : lexemes (s ++ t) = lexemes s ++ lexemes t :=
  ((lexes_lexemes s).append (lexes_lexemes t) h).eq_lexemes.symm

theorem lexemes_append_of_isBlank {s : Text} (hs : s.isBlank) (t : Text) : lexemes (s ++ t) = lexemes t :=
  ((lexes_lexemes t).append_of_isBlank hs).eq_lexemes.symm

end StringCalculator
