import Mathlib.Data.List.Chain
import StringCalculator.Proofs.Scan.Adjacency
import StringCalculator.Proofs.Scan.Rendered
import StringCalculator.Proofs.Token

/-!
# `StringCalculator.Proofs.Scan.Image` — the tokens that can be read

Which lists of tokens are read from some text under some delimiters is a matter of neighbours, of the last
token and of the bound. Parentheses need not match, and a list may end where an operand is due behind an
opening parenthesis. `Admissible` says this of a list alone.

Every text is read as such a list, since the scan alternates (`alternates_of_readTokens`) and numbers above
the bound are left out. Conversely such a list, written with a space between neighbours, is a text that is
read as the list itself. The spaces are needed: a minus and the negative number behind it are two tokens,
and of the two signs the first is met where an operator is due and the second where an operand is.

## Contents
- **`Admissible`**: the lists, by neighbours, last token and bound.
- **`exists_alternates_iff`**: alternation by neighbours.
- **`Token.lexes_display`**, **`Token.passes_lexemes`**: the written list.
- **`readTokens_image`**: these lists are read, and no others; each reads back from its own text.
-/

namespace StringCalculator

open Scan

/-- **Tokens that can be read under a bound.** An empty list is one of them. -/
structure Admissible (bound : Number) (ts : List (Token Number)) : Prop where
  /-- The first token is a number or an opening parenthesis. -/
  begins : ∀ t, ts.head? = some t → t.beginsOperand
  /-- Behind a number or a closing parenthesis there is an operator or a closing parenthesis, and behind an
      operator or an opening parenthesis there is a number or an opening parenthesis. -/
  neighbours : ts.IsChain fun t u => u.beginsOperand = !t.endsOperand
  /-- The last token is no operator. -/
  ends : ∀ o, ts.getLast? ≠ some (.operator o)
  /-- No number lies above the bound. Zero is below every bound, a negative one included. -/
  within : ∀ n, .operand n ∈ ts → (n.toInt.natAbs : Int) ≤ max 0 bound.toInt

/-! ## Neighbours and bound -/

/-- Tokens alternate if the first is one that is due and each is due behind the one in front of it. -/
theorem exists_alternates_iff {α : Type} {ts : List (Token α)} {due : Bool} :
    (∃ due', Alternates due ts due')
      ↔ (∀ t, ts.head? = some t → t.beginsOperand = due)
        ∧ ts.IsChain fun t u => u.beginsOperand = !t.endsOperand := by
  induction ts generalizing due with
  | nil => exact ⟨fun _ => ⟨by simp, .nil⟩, fun _ => ⟨due, .nil⟩⟩
  | cons t ts ih =>
    rw [List.isChain_cons]
    constructor
    · rintro ⟨due', halternates⟩
      cases halternates with
      | cons hbegins hrest =>
        obtain ⟨hnext, hchain⟩ := ih.1 ⟨due', hrest⟩
        exact ⟨by simpa using hbegins, hnext, hchain⟩
    · rintro ⟨hbegins, hnext, hchain⟩
      obtain ⟨due', hrest⟩ := ih.2 ⟨hnext, hchain⟩
      exact ⟨due', .cons (hbegins t rfl) hrest⟩

theorem Number.within_iff {n bound : Number} :
    n.Within bound ↔ (n.toInt.natAbs : Int) ≤ max 0 bound.toInt := by
  have hzero : n = 0 ↔ n.toInt = 0 := by
    rw [← Int64.toInt_inj]
    rfl
  rw [Number.Within, hzero]
  omega

/-- What is read is admissible. -/
theorem admissible_of_readTokens {ds : Delimiters} {bound : Number} {t : Text} {ts : List (Token Number)}
    {negatives : List Int} (h : (readTokens ds bound t).outcome = .ok (ts, negatives)) :
    Admissible bound ts := by
  obtain ⟨due, halternates, hends⟩ := alternates_of_readTokens h
  obtain ⟨hbegins, hneighbours⟩ := exists_alternates_iff.1 ⟨due, halternates⟩
  refine ⟨hbegins, hneighbours, hends, ?_⟩
  intro n hn
  have hoperand : n ∈ ts.filterMap Token.operand? := List.mem_filterMap.2 ⟨_, hn, rfl⟩
  exact Number.within_iff.1 (within_of_readTokens h n hoperand).1

/-- The smallest number has no magnitude within any bound. -/
theorem Admissible.minValue_notMem {bound : Number} {ts : List (Token Number)} (h : Admissible bound ts) :
    .operand Int64.minValue ∉ ts := by
  intro hmem
  have hwithin := h.within _ hmem
  have hbound := bound.toInt_lt
  have hmin : Int64.minValue.toInt.natAbs = 2 ^ 63 := by decide
  rw [hmin] at hwithin
  omega

/-! ## The written list -/

/-- The state in which an operand or an operator is due. -/
def Expecting.ofDue : Bool → Expecting
  | true => .operand false
  | false => .operator

namespace Token

/-- The lexemes of a written token. -/
def lexemes : Token Number → List Lexeme
  | operand n => n.lexemes
  | operator o => [.operator o]
  | lparen => [.lparen]
  | rparen => [.rparen]

/-- The lexemes of a written token, in front of anything that does not go on with a word. -/
theorem lexes_text (t : Token Number) {s : Text} {ls : List Lexeme}
    (hs : ∀ c, s.head? = some c → Separator c) (h : Lexes s ls) :
    Lexes (t.text ++ s) (t.lexemes ++ ls) := by
  cases t with
  | operand n => exact n.lexes_text hs h
  | operator o => exact .operator o h
  | lparen => exact .lparen h
  | rparen => exact .rparen h

/-- The lexemes of a written list. The space behind a token ends it. -/
theorem lexes_display (ts : List (Token Number)) : Lexes (display ts) (ts.flatMap lexemes) := by
  induction ts with
  | nil => exact .nil
  | cons t ts ih =>
    cases ts with
    | nil => simpa [display_singleton] using t.lexes_text (s := []) (by simp) .nil
    | cons u us =>
      have hspace : isSpace ' ' := by decide
      rw [display_cons_cons]
      exact t.lexes_text (by rintro c ⟨⟩; exact .inl hspace) (.space hspace ih)

/-- **A written list is passed** from where an operand or an operator is due to where one is due behind it. -/
theorem passes_lexemes {ts : List (Token Number)} {due due' : Bool} (h : Alternates due ts due') :
    Passes (.ofDue due) (ts.flatMap lexemes) (ts.map (Token.map Number.reading)) (.ofDue due') := by
  induction h with
  | nil => exact .nil
  | @cons due t ts due' hbegins _ ih =>
    have hhead : Passes (.ofDue due) t.lexemes [t.map Number.reading] (.ofDue !t.endsOperand) := by
      subst hbegins
      cases t with
      | operand n => exact n.passes_lexemes
      | operator o => exact .token rfl .nil
      | lparen => exact .token rfl .nil
      | rparen => exact .token rfl .nil
    exact hhead.append ih

/-- The standard delimiters do not occur in a written list. -/
theorem standard_not_infix_display (ts : List (Token Number)) :
    ∀ d ∈ Delimiters.standard, ¬d <:+: display ts := by
  apply Delimiters.standard_not_infix
  all_goals
    intro hmem
    rcases mem_display hmem with hspace | ⟨t, -, hchar⟩
    · cases hspace
    · have hchar := mem_text hchar
      revert hchar
      decide

end Token

/-- **A list reads back from its own text** under any delimiters that do not occur there. -/
theorem outcome_readTokens_display {ds : Delimiters} {bound : Number} {ts : List (Token Number)}
    (hds : ∀ d ∈ ds, ¬d <:+: Token.display ts) (h : Admissible bound ts) :
    (readTokens ds bound (Token.display ts)).outcome
      = .ok (ts, (((ts.filterMap Token.operand?).map Int64.toInt).filter (· < 0)).eraseDups) := by
  obtain ⟨due, halternates⟩ := exists_alternates_iff.2 ⟨h.begins, h.neighbours⟩
  have hlexes : Lexes (ds.toPlus (Token.display ts)) (ts.flatMap Token.lexemes) := by
    rw [Delimiters.toPlus_eq_self hds]
    exact Token.lexes_display ts
  refine outcome_readTokens_of_passes hlexes (Token.passes_lexemes halternates) h.ends ?_
  intro n hn
  obtain ⟨t, ht, hoperand⟩ := List.mem_filterMap.1 hn
  cases t with
  | operand m =>
    cases hoperand
    exact Number.within_iff.2 (h.within n ht)
  | _ => cases hoperand

/-- **The image of reading, and the way back.** Under a bound, a list of tokens is read from some text under
    some delimiters just if it is admissible, so the smallest number is in none. Each such list, written with
    spaces between its tokens, is read as itself under no delimiters and under the standard ones, and its
    distinct negative numbers are told in order of first appearance. -/
theorem readTokens_image (bound : Number) :
    (∀ ts, (∃ ds t negatives, (readTokens ds bound t).outcome = .ok (ts, negatives)) ↔ Admissible bound ts)
    ∧ (∀ ts, Admissible bound ts → .operand Int64.minValue ∉ ts)
    ∧ ∀ ts, Admissible bound ts → ∀ ds, ds = .empty ∨ ds = .standard →
      (readTokens ds bound (Token.display ts)).outcome
        = .ok (ts, (((ts.filterMap Token.operand?).map Int64.toInt).filter (· < 0)).eraseDups) := by
  have hback : ∀ ts, Admissible bound ts → ∀ ds, ds = .empty ∨ ds = .standard →
      (readTokens ds bound (Token.display ts)).outcome
        = .ok (ts, (((ts.filterMap Token.operand?).map Int64.toInt).filter (· < 0)).eraseDups) := by
    rintro ts h _ (rfl | rfl)
    · refine outcome_readTokens_display ?_ h
      intro d hd
      cases hd
    · exact outcome_readTokens_display (Token.standard_not_infix_display ts) h
  refine ⟨fun ts => ⟨?_, ?_⟩, fun ts h => h.minValue_notMem, hback⟩
  · rintro ⟨ds, t, negatives, h⟩
    exact admissible_of_readTokens h
  · intro h
    exact ⟨.empty, _, _, hback ts h .empty (.inl rfl)⟩

/-- `( 5 - -3 ) ) * (`: the parentheses do not match, and a negative number stands behind a minus. -/
theorem readTokens_image_open :
    let ts : List (Token Number) := [.lparen, .operand 5, .operator .sub, .operand (-3), .rparen, .rparen,
      .operator .mul, .lparen]
    Admissible 1000 ts ∧ Token.display ts = "( 5 - -3 ) ) * (".toList
    ∧ .operand Int64.minValue ∉ ts
    ∧ (readTokens .standard 1000 (Token.display ts)).outcome = .ok (ts, [-3]) := by
  intro ts
  obtain ⟨himage, hmin, hback⟩ := readTokens_image 1000
  -- admissible, since it is read from another text
  have hread : (readTokens .standard 1000 "(+5--3))*,(-".toList).outcome = .ok (ts, [-3]) := by decide +kernel
  have hadmissible : Admissible 1000 ts := (himage ts).1 ⟨_, _, _, hread⟩
  exact ⟨hadmissible, by decide +kernel, hmin ts hadmissible, hback ts hadmissible .standard (.inr rfl)⟩

end StringCalculator
