import StringCalculator.Token

/-!
# `StringCalculator.Proofs.Token` — written tokens read back

A list of tokens is written with one space between neighbours. No token has a space of its own, so the
pieces between the spaces are the tokens, and each piece tells which token it is: a minus by itself is
the operator, one with digits behind it belongs to a number. So nothing is lost in writing, whether or
not the tokens make an expression.

## Contents
- **`Token.ofText?`**, **`Token.ofDisplay?`**: the token of a piece, and the tokens of a whole text.
- **`ofDisplay?_display`**: what was written is read.
- **`display_injective`**: different lists are written differently.
- **`mem_text`**, **`mem_display`**: the characters of what is written.
-/

namespace StringCalculator.Token

/-! ## Reading -/

/-- The token that a character stands for by itself. -/
def ofSymbol? : Char → Option (Token Number)
  | '+' => some (.operator .add)
  | '-' => some (.operator .sub)
  | '*' => some (.operator .mul)
  | '/' => some (.operator .div)
  | '(' => some .lparen
  | ')' => some .rparen
  | _ => none

/-- The token that a piece of text stands for: one character that is a token by itself, or else a
    number. -/
def ofText? (t : Text) : Option (Token Number) :=
  match t with
  | [c] => (ofSymbol? c).or ((Number.ofText? t).map .operand)
  | _ => (Number.ofText? t).map .operand

/-- The tokens that a text stands for, divided by single spaces. An empty text stands for none. -/
def ofDisplay? (t : Text) : Option (List (Token Number)) :=
  if t = [] then some [] else (t.splitOn ' ').mapM ofText?

/-! ## One token -/

/-- Digits and a minus in front of them are no token of one character. -/
theorem ofSymbol?_of_text {n : Number} {c : Char} (h : n.text = [c]) : ofSymbol? c = none := by
  rcases n.mem_text (h ▸ List.mem_singleton_self c) with rfl | hdigit
  · -- a minus alone is no number
    have hread := n.ofText?_text
    rw [h] at hread
    cases hread
  · unfold ofSymbol?
    split
    all_goals first
      | rfl
      | exact absurd hdigit (by decide)

/-- **A token reads back**, a number as a number and an operator as itself. -/
theorem ofText?_text (t : Token Number) : ofText? t.text = some t := by
  cases t with
  | operand n =>
    show ofText? n.text = _
    unfold ofText?
    split
    · rename_i c h
      rw [ofSymbol?_of_text h, Option.none_or, Number.ofText?_text, Option.map_some]
    · rw [Number.ofText?_text, Option.map_some]
  | operator o => cases o <;> rfl
  | lparen => rfl
  | rparen => rfl

/-- The characters of a written token. -/
theorem mem_text {t : Token Number} {c : Char} (h : c ∈ t.text) :
    c.isDigit ∨ c ∈ ['(', ')', '+', '-', '*', '/'] := by
  cases t with
  | operand n =>
    rcases n.mem_text h with rfl | hdigit
    · exact .inr (by decide)
    · exact .inl hdigit
  | operator o =>
    obtain rfl := List.mem_singleton.1 h
    exact .inr (by cases o <;> decide)
  | lparen =>
    obtain rfl := List.mem_singleton.1 h
    exact .inr (by decide)
  | rparen =>
    obtain rfl := List.mem_singleton.1 h
    exact .inr (by decide)

/-- No token has a space in it. -/
theorem space_notMem_text (t : Token Number) : ' ' ∉ t.text := by
  intro h
  have hspace := mem_text h
  revert hspace
  decide

/-! ## Lists of tokens -/

theorem display_singleton (t : Token Number) : display [t] = t.text :=
  Text.spaced_singleton _

theorem display_cons_cons (t u : Token Number) (ts : List (Token Number)) :
    display (t :: u :: ts) = t.text ++ ' ' :: display (u :: ts) :=
  Text.spaced_cons_cons _ _ _

/-- The characters of a written list are those of its tokens, and spaces. -/
theorem mem_display {ts : List (Token Number)} {c : Char} (h : c ∈ display ts) :
    c = ' ' ∨ ∃ t ∈ ts, c ∈ t.text := by
  induction ts with
  | nil => cases h
  | cons t ts ih =>
    cases ts with
    | nil =>
      rw [display_singleton] at h
      exact .inr ⟨t, List.mem_singleton_self t, h⟩
    | cons u us =>
      rw [display_cons_cons, List.mem_append, List.mem_cons] at h
      rcases h with hhere | rfl | hlater
      · exact .inr ⟨t, List.mem_cons_self, hhere⟩
      · exact .inl rfl
      · refine (ih hlater).imp_right ?_
        rintro ⟨v, hv, hc⟩
        exact ⟨v, List.mem_cons_of_mem t hv, hc⟩

/-- The pieces between the spaces are the tokens. -/
theorem splitOn_display {ts : List (Token Number)} (h : ts ≠ []) :
    (display ts).splitOn ' ' = ts.map text := by
  refine List.splitOn_intercalate ' ' ?_ (by simpa using h)
  intro piece hpiece
  obtain ⟨t, -, rfl⟩ := List.mem_map.1 hpiece
  exact t.space_notMem_text

/-- Written tokens are read piece by piece. -/
theorem mapM_ofText?_map_text (ts : List (Token Number)) : (ts.map text).mapM ofText? = some ts := by
  induction ts with
  | nil => rfl
  | cons t ts ih => simp [ofText?_text, ih]

/-- Only the empty list is written as the empty text. -/
theorem display_ne_nil {ts : List (Token Number)} (h : ts ≠ []) : display ts ≠ [] := by
  intro hnil
  -- the empty text has one piece, and no token is written like that
  have hpieces := splitOn_display h
  rw [hnil, List.splitOn_nil] at hpieces
  have hread := mapM_ofText?_map_text ts
  rw [← hpieces] at hread
  cases hread

/-- **Written tokens read back.** -/
theorem ofDisplay?_display (ts : List (Token Number)) : ofDisplay? (display ts) = some ts := by
  by_cases h : ts = []
  · rw [h]
    rfl
  · rw [ofDisplay?, if_neg (display_ne_nil h), splitOn_display h, mapM_ofText?_map_text]

/-- **Different lists are written differently.** -/
theorem display_injective {ts us : List (Token Number)} (h : display ts = display us) : ts = us := by
  have hread := ofDisplay?_display ts
  rw [h, ofDisplay?_display us] at hread
  exact (Option.some.inj hread).symm

end StringCalculator.Token
