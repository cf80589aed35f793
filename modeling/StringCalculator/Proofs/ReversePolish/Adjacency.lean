import StringCalculator.Proofs.Balanced
import StringCalculator.Proofs.ReversePolish.Grammar

/-!
# `StringCalculator.Proofs.ReversePolish.Adjacency` — neighbours and parentheses make an expression

Whether tokens are an expression can be told without a grammar. An operand is due at first, behind an
operator and behind an opening parenthesis, and it begins nowhere else; that is a matter of neighbours
only. Together with parentheses that match it is all the grammar asks for.

The proof reads the tokens from left to right and keeps a partial parse. Inside each open parenthesis
there is a sum that waits for its next product, or a product that waits for its next factor, or both;
one token more changes the innermost of these, and a closing parenthesis turns it into a factor of the
next one (`Parsed`). Parentheses are arranged away just if they match (`isSome_arrange_iff`), so both
sides of the order are settled for such tokens.

## Contents
- **`Alternates`**: operands begin where they are due.
- **`Front`, `Back`**: one level of a partial parse, where an operand or an operator is due.
- **`Parsed`**, **`Parsed.step`**, **`Parsed.run`**: the partial parse through all open parentheses.
- **`exists_derives_of_alternates`**: alternating tokens with matching parentheses are an expression.
- **`isSome_ofTokens?_iff`**: the tokens have an order just if their parentheses match.
-/

namespace StringCalculator

variable {α β : Type}

/-! ## Neighbours -/

namespace Token

/-- The token begins an operand: it is one, or it opens a parenthesis. -/
def beginsOperand : Token α → Bool
  | operand _ | lparen => true
  | operator _ | rparen => false

/-- The token ends an operand: it is one, or it closes a parenthesis. -/
def endsOperand : Token α → Bool
  | operand _ | rparen => true
  | operator _ | lparen => false

@[simp] theorem beginsOperand_map (f : α → β) (t : Token α) :
    (t.map f).beginsOperand = t.beginsOperand := by cases t <;> rfl

@[simp] theorem endsOperand_map (f : α → β) (t : Token α) :
    (t.map f).endsOperand = t.endsOperand := by cases t <;> rfl

end Token

/-- From where an operand is due or not, the tokens lead to where one is due or not, and operands begin
    just where they are due. -/
inductive Alternates : Bool → List (Token α) → Bool → Prop
  | nil {due} : Alternates due [] due
  | cons {due t ts due'} : t.beginsOperand = due → Alternates (!t.endsOperand) ts due' →
      Alternates due (t :: ts) due'

namespace Alternates

variable {due due' due'' : Bool} {ts us : List (Token α)}

theorem append (h : Alternates due ts due') (h' : Alternates due' us due'') :
    Alternates due (ts ++ us) due'' := by
  induction h with
  | nil => exact h'
  | cons hbegins _ ih => exact .cons hbegins (ih h')

/-- What an operand carries is no matter. -/
theorem map (f : α → β) (h : Alternates due ts due') : Alternates due (ts.map (Token.map f)) due' := by
  induction h with
  | nil => exact .nil
  | cons hbegins _ ih => exact .cons (by rwa [Token.beginsOperand_map]) (by rwa [Token.endsOperand_map])

/-- The last token tells what is due behind it. -/
theorem due_of_getLast? {t : Token α} (h : Alternates due ts due') (hlast : ts.getLast? = some t) :
    due' = !t.endsOperand := by
  induction h with
  | nil => cases hlast
  | @cons due u us due' _ hrest ih =>
    cases us with
    | nil =>
      cases hrest
      cases hlast
      rfl
    | cons v vs => exact ih (by rwa [List.getLast?_cons_cons] at hlast)

end Alternates

/-! ## Parentheses among tokens -/

section Parentheses

variable [DecidableEq α] {depth : Nat} {ts : List (Token α)}

theorem balancedFrom_operand {a : α} :
    BalancedFrom .lparen .rparen depth (.operand a :: ts) ↔ BalancedFrom .lparen .rparen depth ts :=
  balancedFrom_other (by simp) (by simp)

theorem balancedFrom_operator {o : Operator} :
    BalancedFrom .lparen .rparen depth (.operator o :: ts) ↔ BalancedFrom .lparen .rparen depth ts :=
  balancedFrom_other (by simp) (by simp)

theorem balancedFrom_lparen :
    BalancedFrom .lparen .rparen depth (.lparen :: ts) ↔ BalancedFrom .lparen .rparen (depth + 1) ts :=
  balancedFrom_open (by simp)

theorem balancedFrom_rparen :
    BalancedFrom .lparen .rparen depth (.rparen :: ts)
      ↔ ∃ outer, depth = outer + 1 ∧ BalancedFrom .lparen .rparen outer ts :=
  balancedFrom_close (by simp)

/-- Parentheses that match do not end with an opening one. -/
theorem getLast?_ne_lparen_of_balanced (h : Balanced .lparen .rparen ts) :
    ts.getLast? ≠ some .lparen := by
  intro hlast
  obtain ⟨init, rfl⟩ := List.getLast?_eq_some_iff.1 hlast
  -- in front of it no more may be closed than opened, so one stays open
  have hfront := h.1 init (List.prefix_append _ _)
  have htotal := h.2
  simp at htotal
  omega

end Parentheses

/-! ## One level of a partial parse -/

namespace ReversePolish

/-- A phrase with an operator of its own precedence behind it, or nothing. -/
def Pending (k : Phrase) (w : List (Token α)) : Prop :=
  w = [] ∨ ∃ v e o, Derives k v e ∧ o.precedence = k.precedence ∧ w = v ++ [.operator o]

/-- What may stand in front of a factor. -/
def Front (w : List (Token α)) : Prop := ∃ u v, w = u ++ v ∧ Pending .sum u ∧ Pending .product v

/-- What ends with a product: a sum, told by its last product. -/
def Back (w : List (Token α)) : Prop := ∃ u v e, w = u ++ v ∧ Pending .sum u ∧ Derives .product v e

variable {w f : List (Token α)} {e : Expr α}

theorem precedence_eq_one_iff {o : Operator} : o.precedence = 1 ↔ o = .add ∨ o = .sub := by
  cases o <;> decide

theorem precedence_eq_two_iff {o : Operator} : o.precedence = 2 ↔ o = .mul ∨ o = .div := by
  cases o <;> decide

theorem front_nil : Front ([] : List (Token α)) := ⟨[], [], rfl, .inl rfl, .inl rfl⟩

/-- A factor ends the product that waits for it. -/
theorem Front.factor (h : Front w) (hf : Derives .factor f e) : Back (w ++ f) := by
  obtain ⟨u, v, rfl, hu, hv⟩ := h
  rcases hv with rfl | ⟨v, l, o, hl, ho, rfl⟩
  · exact ⟨u, f, e, by rw [List.append_nil], hu, .factor hf⟩
  · have hproduct := Derives.times (precedence_eq_two_iff.1 ho) hl hf
    exact ⟨u, v ++ .operator o :: f, _, by simp, hu, hproduct⟩

/-- A product ends the sum that waits for it. -/
theorem Back.derives (h : Back w) : ∃ e, Derives .sum w e := by
  obtain ⟨u, v, e, rfl, hu, hv⟩ := h
  rcases hu with rfl | ⟨u, l, o, hl, ho, rfl⟩
  · exact ⟨e, .product hv⟩
  · have hsum := Derives.plus (precedence_eq_one_iff.1 ho) hl hv
    exact ⟨_, by simpa using hsum⟩

/-- An operator waits behind the last product, or behind the whole sum if it is a looser one. -/
theorem Back.operator (h : Back w) (o : Operator) : Front (w ++ [.operator o]) := by
  by_cases ho : o.precedence = 1
  · obtain ⟨e, he⟩ := h.derives
    exact ⟨w ++ [.operator o], [], by simp, .inr ⟨w, e, o, he, ho, rfl⟩, .inl rfl⟩
  · obtain ⟨u, v, e, rfl, hu, hv⟩ := h
    have ho : o.precedence = 2 := by cases o <;> simp_all [Operator.precedence]
    exact ⟨u, v ++ [.operator o], by simp, hu, .inr ⟨v, e, o, hv, ho, rfl⟩⟩

/-! ## All levels -/

/-- One level, by what is due at its end. -/
def Level (due : Bool) (w : List (Token α)) : Prop := if due then Front w else Back w

/-- **The partial parse.** So many parentheses are open, and between each two of them stands what may
    stand in front of a factor. -/
inductive Parsed : Bool → Nat → List (Token α) → Prop
  | outermost {due w} : Level due w → Parsed due 0 w
  | inside {due depth u w} : Parsed true depth u → Level due w →
      Parsed due (depth + 1) (u ++ .lparen :: w)

variable {due due' : Bool} {depth : Nat} {t : Token α} {ts : List (Token α)}

theorem Parsed.factor (h : Parsed true depth w) (hf : Derives .factor f e) :
    Parsed false depth (w ++ f) := by
  cases h with
  | outermost hw => exact .outermost (Front.factor hw hf)
  | inside hu hw =>
    rw [List.append_assoc, List.cons_append]
    exact .inside hu (Front.factor hw hf)

theorem Parsed.operator (h : Parsed false depth w) (o : Operator) :
    Parsed true depth (w ++ [.operator o]) := by
  cases h with
  | outermost hw => exact .outermost (Back.operator hw o)
  | inside hu hw =>
    rw [List.append_assoc, List.cons_append]
    exact .inside hu (Back.operator hw o)

/-- A closing parenthesis makes the innermost level a factor of the one around it. -/
theorem Parsed.rparen (h : Parsed false (depth + 1) w) : Parsed false depth (w ++ [.rparen]) := by
  cases h with
  | @inside _ _ u w hu hw =>
    obtain ⟨e, he⟩ := Back.derives hw
    rw [List.append_assoc]
    exact hu.factor (.parens he)

section Run

variable [DecidableEq α]

/-- **One token more** keeps the partial parse, if the operand is due that it begins and the parenthesis
    is open that it closes. -/
theorem Parsed.step (h : Parsed due depth w) (hbegins : t.beginsOperand = due)
    (hbalanced : BalancedFrom .lparen .rparen depth (t :: ts)) :
    ∃ depth', Parsed (!t.endsOperand) depth' (w ++ [t]) ∧ BalancedFrom .lparen .rparen depth' ts := by
  subst hbegins
  cases t with
  | operand a =>
    rw [balancedFrom_operand] at hbalanced
    exact ⟨depth, h.factor (.operand a), hbalanced⟩
  | operator o =>
    rw [balancedFrom_operator] at hbalanced
    exact ⟨depth, h.operator o, hbalanced⟩
  | lparen =>
    rw [balancedFrom_lparen] at hbalanced
    exact ⟨depth + 1, .inside h front_nil, hbalanced⟩
  | rparen =>
    obtain ⟨outer, rfl, hrest⟩ := balancedFrom_rparen.1 hbalanced
    exact ⟨outer, h.rparen, hrest⟩

/-- A whole list of tokens keeps the partial parse, and at its end no parenthesis is open. -/
theorem Parsed.run (h : Parsed due depth w) (hts : Alternates due ts due')
    (hbalanced : BalancedFrom .lparen .rparen depth ts) : Parsed due' 0 (w ++ ts) := by
  induction hts generalizing w depth with
  | nil =>
    obtain rfl := balancedFrom_nil.1 hbalanced
    rwa [List.append_nil]
  | @cons due t ts due' hbegins _ ih =>
    obtain ⟨depth', hstep, hrest⟩ := h.step hbegins hbalanced
    rw [List.append_cons]
    exact ih hstep hrest

end Run

end ReversePolish

open ReversePolish

variable [DecidableEq α] {ts : List (Token α)}

/-- **Neighbours and parentheses make an expression.** Tokens in which operands begin just where they
    are due and parentheses match are derived by the grammar. -/
theorem exists_derives_of_alternates (h : Alternates true ts false)
    (hbalanced : Balanced .lparen .rparen ts) : ∃ e, Derives .sum ts e := by
  have hstart : Parsed true 0 ([] : List (Token α)) := .outermost front_nil
  have hend := hstart.run h (balancedFrom_zero_iff.2 hbalanced)
  cases hend with
  | outermost hback => exact Back.derives hback

/-! ## Parentheses and the order -/

namespace ReversePolish

/-- The order is found just if the parentheses match behind those that are open. -/
theorem isSome_arrange_iff (waiting : List Operator) (outer : List (List Operator))
    (ts : List (Token α)) :
    (arrange waiting outer ts).isSome ↔ BalancedFrom .lparen .rparen outer.length ts := by
  fun_induction arrange waiting outer ts with
  | case1 => simp [balancedFrom_nil]
  | case2 waiting outer hopen => simpa [balancedFrom_nil] using hopen
  | case3 waiting outer a ts ih => rw [Option.isSome_map, ih, balancedFrom_operand]
  | case4 waiting outer ts ih => rw [ih, balancedFrom_lparen, List.length_cons]
  | case5 waiting ts => simp [balancedFrom_rparen]
  | case6 waiting ts around outer ih =>
    rw [Option.isSome_map, ih, balancedFrom_rparen, List.length_cons]
    simp
  | case7 waiting outer o ts =>
    rename_i ih
    rw [Option.isSome_map, ih, balancedFrom_operator]

/-- **The order of tokens** is found just if their parentheses match. -/
theorem isSome_ofTokens?_iff : (ofTokens? ts).isSome ↔ Balanced .lparen .rparen ts :=
  (isSome_arrange_iff [] [] ts).trans balancedFrom_zero_iff

end ReversePolish

end StringCalculator
