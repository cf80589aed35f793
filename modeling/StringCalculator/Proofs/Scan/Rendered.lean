import StringCalculator.Proofs.Delimiters.Cut
import StringCalculator.Proofs.Expr
import StringCalculator.Proofs.Scan.Acceptance

/-!
# `StringCalculator.Proofs.Scan.Rendered` — the text of a tree is read as its own tokens

A tree is written with one pair of parentheses around every operator and spaces around the symbol.
Reading that text has to tell the two kinds of minus apart: the one of a difference stands where an
operator is due, the one of a negative number where an operand is due, so `(5 - -3)` has both.

The round trip is two inductions over the tree, each with everything behind the text left open. The
text of a tree has the lexemes of the tree (`lexes_render`), and the scan passes these from where an
operand is due to where an operator is due (`passes_lexemes`).

## Contents
- **`Number.reading`**: the reading that the text of a number has.
- **`Number.Within`**: the numbers that a bound leaves as they are.
- **`Expr.lexemes`**, **`Expr.lexes_render`**, **`Expr.passes_lexemes`**: the two inductions.
- **`outcome_readTokens_of_passes`**: what is passed as tokens within the bound is read as these tokens.
- **`outcome_readTokens_render`**: the tokens and the negative numbers of a written tree.
- **`within_of_readTokens`**: the operands of any tokens that were read.
-/

namespace StringCalculator

open Scan

/-! ## The text of a number -/

namespace Number

/-- How a number reads back: its digits, behind a minus if it is negative. -/
def reading (n : Number) : Reading := ⟨Decimal.ofNat n.toInt.natAbs, n.toInt < 0⟩

theorem text_eq (n : Number) :
    n.text = (if n.toInt < 0 then ['-'] else []) ++ n.reading.word := by
  show Decimal.ofInt n.toInt = _ ++ Decimal.ofNat n.toInt.natAbs
  cases n.toInt with
  | ofNat m => rfl
  | negSucc m =>
    rw [if_pos (Int.negSucc_lt_zero m)]
    rfl

theorem magnitude_reading (n : Number) : n.reading.magnitude = n.toInt.natAbs := by
  rw [Reading.magnitude, reading, if_pos (Decimal.isNumeral_ofNat _), Decimal.toNat_ofNat]

theorem value_reading (n : Number) : n.reading.value = n.toInt := by
  rw [Reading.value, magnitude_reading, reading]
  by_cases h : n.toInt < 0
  · rw [if_pos (decide_eq_true h)]
    omega
  · rw [if_neg (by simpa using h)]
    omega

/-- The lexemes of the text of a number. -/
def lexemes (n : Number) : List Lexeme :=
  (if n.toInt < 0 then [.operator .sub] else []) ++ [.operand n.reading.word]

/-- **The lexemes of a written number**, in front of anything that does not go on with a word. -/
theorem lexes_text (n : Number) {t : Text} {ls : List Lexeme} (ht : ∀ c, t.head? = some c → Separator c)
    (h : Lexes t ls) : Lexes (n.text ++ t) (n.lexemes ++ ls) := by
  have hword : Lexes (n.reading.word ++ t) (.operand n.reading.word :: ls) := by
    refine .word (Decimal.ofNat_ne_nil _) ?_ ht h
    intro c hc
    exact not_separator_of_isDigit (List.all_eq_true.1 (Decimal.isNumeral_ofNat _) c hc)
  rw [text_eq, lexemes]
  by_cases hneg : n.toInt < 0
  · rw [if_pos hneg, if_pos hneg]
    exact .operator .sub hword
  · rw [if_neg hneg, if_neg hneg]
    exact hword

/-- Where an operand is due, a minus in front of a number belongs to it. -/
theorem passes_lexemes (n : Number) :
    Passes (.operand false) n.lexemes [.operand n.reading] .operator := by
  rw [lexemes, reading]
  by_cases hneg : n.toInt < 0
  · rw [if_pos hneg, decide_eq_true hneg]
    exact .silent rfl (.token rfl .nil)
  · rw [if_neg hneg, decide_eq_false hneg]
    exact .token rfl .nil

/-- The bound leaves the number as it is. Zero is left by every bound, a negative one included. -/
def Within (n bound : Number) : Prop := n = 0 ∨ n.toInt.natAbs ≤ bound.toInt

/-- **A number within the bound reads back as itself.** -/
theorem number_reading {n bound : Number} (h : n.Within bound) : n.reading.number bound = n := by
  cases hexceeds : n.reading.exceeds bound with
  | false => rw [← Int64.toInt_inj, Reading.toInt_number hexceeds, value_reading]
  | true =>
    -- only a negative bound lies below the magnitude of zero, and zero is what counts there
    have habove : bound.toInt < n.toInt.natAbs := by
      simpa [Reading.exceeds, magnitude_reading] using hexceeds
    have hzero : n = 0 := h.resolve_right (by omega)
    rw [Reading.number, if_pos hexceeds, hzero]

end Number

/-- Every number that counts is within the bound. -/
theorem Reading.within_number (bound : Number) (r : Reading) : (r.number bound).Within bound := by
  cases h : r.exceeds bound with
  | true =>
    left
    rw [number, if_pos h]
  | false =>
    right
    rw [toInt_number h, natAbs_value]
    simpa [exceeds] using h

/-- A number that counts is negative only if its word is read as a negative value. -/
theorem Reading.toInt_number_nonneg {bound : Number} {r : Reading} (h : 0 ≤ r.value) :
    0 ≤ (r.number bound).toInt := by
  cases hexceeds : r.exceeds bound with
  | true =>
    rw [number, if_pos hexceeds]
    decide
  | false => rwa [toInt_number hexceeds]

/-! ## The text of a tree -/

namespace Expr

/-- The lexemes of the text of a tree. -/
def lexemes : Expr Number → List Lexeme
  | operand n => n.lexemes
  | binary o l r => .lparen :: l.lexemes ++ .operator o :: r.lexemes ++ [.rparen]

/-- **The lexemes of a written tree**, in front of anything that does not go on with a word. -/
theorem lexes_render (e : Expr Number) {t : Text} {ls : List Lexeme}
    (ht : ∀ c, t.head? = some c → Separator c) (h : Lexes t ls) :
    Lexes (e.render ++ t) (e.lexemes ++ ls) := by
  induction e generalizing t ls with
  | operand n => exact n.lexes_text ht h
  | binary o l r ihl ihr =>
    have hspace : isSpace ' ' := by decide
    have hclosed : Lexes (')' :: t) (.rparen :: ls) := .rparen h
    -- the right operand ends at the parenthesis, the left one at the space
    have hright := ihr (t := ')' :: t) (by rintro c ⟨⟩; exact .inr (by decide)) hclosed
    have hoperator : Lexes (' ' :: o.symbol :: ' ' :: (r.render ++ ')' :: t))
        (.operator o :: (r.lexemes ++ .rparen :: ls)) :=
      .space hspace (.operator o (.space hspace hright))
    have hleft := ihl (t := ' ' :: o.symbol :: ' ' :: (r.render ++ ')' :: t))
      (by rintro c ⟨⟩; exact .inl hspace) hoperator
    simpa [render, lexemes] using Lexes.lparen hleft

/-- **The tokens of a written tree**: the scan passes its lexemes, and an operator is due behind it. -/
theorem passes_lexemes (e : Expr Number) :
    Passes (.operand false) e.lexemes (e.spelled.map (Token.map Number.reading)) .operator := by
  induction e with
  | operand n => exact n.passes_lexemes
  | binary o l r ihl ihr =>
    have hright := ihr.append (.token (l := .rparen) rfl .nil)
    have hleft := ihl.append (.token (l := .operator o) rfl hright)
    simpa [spelled, lexemes, Token.map] using Passes.token (l := .lparen) rfl hleft

end Expr

/-! ## Operands that are read -/

theorem filterMap_operand?_map {α β : Type} (f : α → β) (ts : List (Token α)) :
    (ts.map (Token.map f)).filterMap Token.operand? = (ts.filterMap Token.operand?).map f := by
  rw [List.filterMap_map, List.map_filterMap]
  congr 1
  funext t
  exact Token.operand?_map f t

/-- A map that leaves the operands alone leaves the tokens alone. -/
theorem map_eq_self_of_operands {α : Type} {f : α → α} {ts : List (Token α)}
    (h : ∀ a ∈ ts.filterMap Token.operand?, f a = a) : ts.map (Token.map f) = ts := by
  have hsame : ∀ t ∈ ts, t.map f = id t := by
    intro t ht
    cases t with
    | operand a => exact congrArg Token.operand (h a (List.mem_filterMap.2 ⟨_, ht, rfl⟩))
    | operator o => rfl
    | lparen => rfl
    | rparen => rfl
  rw [List.map_congr_left hsame, List.map_id]

/-- The only operand that no word stands for is the zero behind a last operator. -/
theorem mem_operands_withFinalZero {ts : List (Token Number)} {n : Number}
    (h : n ∈ (withFinalZero ts).filterMap Token.operand?) :
    n = 0 ∨ n ∈ ts.filterMap Token.operand? := by
  unfold withFinalZero at h
  split at h
  · rw [List.filterMap_append, List.mem_append] at h
    rcases h with h | h
    · exact .inr h
    · exact .inl (List.mem_singleton.1 h)
  · exact .inr h

/-- **The operands that are read** are within the bound, and unless a negative value is reported none of
    them is negative. -/
theorem within_of_readTokens {ds : Delimiters} {bound : Number} {t : Text} {ts : List (Token Number)}
    {negatives : List Int} (h : (readTokens ds bound t).outcome = .ok (ts, negatives)) :
    ∀ n ∈ ts.filterMap Token.operand?, n.Within bound ∧ (negatives = [] → 0 ≤ n.toInt) := by
  obtain ⟨-, rfl, rfl⟩ := readTokens_eq_ok_iff.1 h
  intro n hn
  rcases mem_operands_withFinalZero hn with rfl | hn
  · exact ⟨.inl rfl, fun _ => by decide⟩
  · rw [filterMap_operand?_map] at hn
    obtain ⟨r, hr, rfl⟩ := List.mem_map.1 hn
    refine ⟨r.within_number bound, ?_⟩
    intro hnone
    apply Reading.toInt_number_nonneg
    by_contra hneg
    -- a negative value would be reported
    have hreported : (Scan.ofText ds t).negatives ≠ [] :=
      eraseDups_filter_neg_ne_nil_iff.2 ⟨r.value, List.mem_map_of_mem hr, by omega⟩
    exact hreported hnone

/-! ## Reading back -/

/-- Nothing is missing behind tokens that do not end with an operator. -/
theorem withFinalZero_eq_self {ts : List (Token Number)} (h : ∀ o, ts.getLast? ≠ some (.operator o)) :
    withFinalZero ts = ts := by
  rw [withFinalZero, if_neg]
  cases hlast : ts.getLast? with
  | none => exact Bool.false_ne_true
  | some t =>
    cases t with
    | operator o => exact absurd hlast (h o)
    | _ => exact Bool.false_ne_true

/-- **Written tokens are read back** if the text has the lexemes that the tokens are written with: as the
    same tokens, if the bound leaves their operands, and with their negative operands. -/
theorem outcome_readTokens_of_passes {ds : Delimiters} {bound : Number} {t : Text} {ls : List Lexeme}
    {ts : List (Token Number)} {s : Expecting} (hlexes : Lexes (ds.toPlus t) ls)
    (hpasses : Passes (.operand false) ls (ts.map (Token.map Number.reading)) s)
    (hlast : ∀ o, ts.getLast? ≠ some (.operator o))
    (hwithin : ∀ n ∈ ts.filterMap Token.operand?, n.Within bound) :
    (readTokens ds bound t).outcome
      = .ok (ts, (((ts.filterMap Token.operand?).map Int64.toInt).filter (· < 0)).eraseDups) := by
  have hscan : Scan.ofText ds t = { read := ts.map (Token.map Number.reading) } := by
    rw [Scan.ofText, ← hlexes.eq_lexemes]
    simpa [run] using hpasses []
  have htokens : (Scan.ofText ds t).tokens bound = ts := by
    have hcomp : Token.map (Reading.number bound) ∘ Token.map Number.reading
        = Token.map fun n : Number => n.reading.number bound := funext fun t => t.map_map _ _
    have hsame : ts.map (Token.map fun n : Number => n.reading.number bound) = ts :=
      map_eq_self_of_operands fun n hn => Number.number_reading (hwithin n hn)
    rw [hscan, tokens, List.map_map, hcomp, hsame, withFinalZero_eq_self hlast]
  have hnegatives : (Scan.ofText ds t).negatives
      = (((ts.filterMap Token.operand?).map Int64.toInt).filter (· < 0)).eraseDups := by
    have hvalue : Reading.value ∘ Number.reading = Int64.toInt := funext Number.value_reading
    rw [hscan, negatives, readings, filterMap_operand?_map, List.map_map, hvalue]
  apply readTokens_eq_ok_iff.2
  exact ⟨by rw [hscan], htokens.symm, hnegatives.symm⟩

/-- The tokens of a tree end with an operand or a parenthesis. -/
theorem Expr.getLast?_spelled_ne_operator (e : Expr Number) (o : Operator) :
    e.spelled.getLast? ≠ some (.operator o) := by
  cases e with
  | operand n => simp [Expr.spelled]
  | binary p l r =>
    rw [Expr.spelled, List.getLast?_concat]
    simp

/-- **A written tree is read back** under any delimiters that do not occur in it: as its own tokens, if
    the bound leaves its operands, and with its negative operands. -/
theorem outcome_readTokens_render {ds : Delimiters} {bound : Number} {e : Expr Number}
    (hds : ∀ d ∈ ds, ¬d <:+: e.render) (hwithin : ∀ n ∈ e.operands, n.Within bound) :
    (readTokens ds bound e.render).outcome
      = .ok (e.spelled, ((e.operands.map Int64.toInt).filter (· < 0)).eraseDups) := by
  have hlexes : Lexes (ds.toPlus e.render) e.lexemes := by
    rw [Delimiters.toPlus_eq_self hds]
    simpa using e.lexes_render (t := []) (by simp) .nil
  rw [← e.filterMap_operand?_spelled] at hwithin ⊢
  exact outcome_readTokens_of_passes hlexes e.passes_lexemes e.getLast?_spelled_ne_operator hwithin

end StringCalculator
