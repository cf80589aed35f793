import StringCalculator.Proofs.Expr
import StringCalculator.ReversePolish

/-!
# `StringCalculator.Proofs.ReversePolish.Grammar` — reverse Polish order follows the grammar

The grammar of expressions has three kinds of phrases: a sum is made of products, a product of factors,
and a factor is an operand or a sum between parentheses. Sums and products grow at their right end, so
operators of one precedence group to the left.

The arranging function never sees a phrase; it sees tokens and waiting operators. What links the two is
`Arranges`: reading a phrase writes one part of its order and leaves the rest as waiting operators, all
of them at least as tight as the phrase is. That is the partial parse at any point of a run, and every
rule of the grammar keeps it.

## Contents
- **`Phrase`, `Derives`**: the grammar, and which tokens it derives with which tree.
- **`filterMap_operand?_arrange`**: the operands keep their order, whatever the tokens are.
- **`Arranges`**: what reading a phrase does to the output and to the waiting operators.
- **`ofTokens?_eq_postorder`**: the order found is that of the tree.
- **`Derives.unambiguous`**: tokens have at most one tree.
-/

namespace StringCalculator

variable {α : Type}

/-! ## The grammar -/

/-- The three kinds of phrases. -/
inductive Phrase where
  | sum | product | factor
  deriving DecidableEq, Repr

/-- The grammar derives the tokens as a phrase of that kind, with that tree. -/
inductive Derives : Phrase → List (Token α) → Expr α → Prop
  | operand (a : α) : Derives .factor [.operand a] (.operand a)
  | parens {w e} : Derives .sum w e → Derives .factor (.lparen :: w ++ [.rparen]) e
  | factor {w e} : Derives .factor w e → Derives .product w e
  | times {u v l r o} : o = .mul ∨ o = .div → Derives .product u l → Derives .factor v r →
      Derives .product (u ++ .operator o :: v) (.binary o l r)
  | product {w e} : Derives .product w e → Derives .sum w e
  | plus {u v l r o} : o = .add ∨ o = .sub → Derives .sum u l → Derives .product v r →
      Derives .sum (u ++ .operator o :: v) (.binary o l r)

/-- **Every tree is derived**, from its tokens with all parentheses. -/
theorem Derives.spelled (e : Expr α) : Derives .factor e.spelled e := by
  induction e with
  | operand a => exact .operand a
  | binary o l r ihl ihr =>
    refine .parens (w := l.spelled ++ .operator o :: r.spelled) ?_
    by_cases ho : o = .mul ∨ o = .div
    · exact .product (.times ho (.factor ihl) ihr)
    · -- a sum needs a sum on its left and a product on its right, and a factor is both
      refine .plus ?_ (.product (.factor ihl)) (.factor ihr)
      cases o <;> simp_all

/-! ## Waiting operators -/

/-- How tight an operator must be to wait inside a phrase of that kind: nothing waits in a factor. -/
def Phrase.precedence : Phrase → Nat
  | sum => 1
  | product => 2
  | factor => 3

namespace ReversePolish

theorem filterMap_operand?_operators (os : List Operator) :
    (os.map (Token.operator (α := α))).filterMap Token.operand? = [] := by
  rw [List.filterMap_map, List.filterMap_eq_nil_iff]
  intro o _
  rfl

/-- **No operand moves.** Whatever the tokens are, their operands keep their order. -/
theorem filterMap_operand?_arrange {waiting : List Operator} {outer : List (List Operator)}
    {ts ordered : List (Token α)} (h : arrange waiting outer ts = some ordered) :
    ordered.filterMap Token.operand? = ts.filterMap Token.operand? := by
  fun_induction arrange waiting outer ts generalizing ordered with
  | case1 waiting =>
    -- at the end only operators are left to write
    cases h
    exact filterMap_operand?_operators waiting
  | case2 => cases h
  | case3 waiting outer a ts ih =>
    obtain ⟨rest, hrest, rfl⟩ := Option.map_eq_some_iff.1 h
    show a :: rest.filterMap Token.operand? = a :: ts.filterMap Token.operand?
    rw [ih hrest]
  | case4 waiting outer ts ih => exact ih h
  | case5 => cases h
  | case6 waiting ts around outer ih =>
    -- what a parenthesis or an operator releases are operators
    obtain ⟨rest, hrest, rfl⟩ := Option.map_eq_some_iff.1 h
    show _ = ts.filterMap Token.operand?
    rw [List.filterMap_append, filterMap_operand?_operators, ih hrest, List.nil_append]
  | case7 waiting outer o ts =>
    rename_i ih
    obtain ⟨rest, hrest, rfl⟩ := Option.map_eq_some_iff.1 h
    show _ = ts.filterMap Token.operand?
    rw [List.filterMap_append, filterMap_operand?_operators, ih hrest, List.nil_append]

/-- **The operators released by another.** Those that wait at least as tightly are written, and the
    looser ones below them keep waiting. -/
theorem arrange_operator {o : Operator} {pending waiting : List Operator}
    (hp : ∀ p ∈ pending, o.precedence ≤ p.precedence) (hw : ∀ p ∈ waiting, p.precedence < o.precedence)
    (outer : List (List Operator)) (ts : List (Token α)) :
    arrange (pending ++ waiting) outer (.operator o :: ts)
      = (arrange (o :: waiting) outer ts).map (pending.map .operator ++ ·) := by
  have hnone : waiting.takeWhile (o.precedence ≤ ·.precedence) = [] := by
    cases waiting with
    | nil => rfl
    | cons p ps => simp [hw p (by simp)]
  have hall : waiting.dropWhile (o.precedence ≤ ·.precedence) = waiting := by
    cases waiting with
    | nil => rfl
    | cons p ps => simp [hw p (by simp)]
  have htake : (pending ++ waiting).takeWhile (o.precedence ≤ ·.precedence) = pending := by
    rw [List.takeWhile_append_of_pos (by simpa using hp), hnone, List.append_nil]
  have hdrop : (pending ++ waiting).dropWhile (o.precedence ≤ ·.precedence) = waiting := by
    rw [List.dropWhile_append_of_pos (by simpa using hp), hall]
  rw [arrange, htake, hdrop]

/-- **The invariant of a phrase.** Read where only looser operators wait, the tokens write the first
    part of the tree's order, and the rest of it waits. -/
def Arranges (k : Phrase) (w : List (Token α)) (e : Expr α) : Prop :=
  ∃ written pending, e.postorder = written ++ pending.map .operator
    ∧ (∀ p ∈ pending, k.precedence ≤ p.precedence)
    ∧ ∀ waiting outer rest, (∀ p ∈ waiting, p.precedence < k.precedence) →
        arrange waiting outer (w ++ rest)
          = (arrange (pending ++ waiting) outer rest).map (written ++ ·)

/-- A tighter phrase is one of a looser kind. -/
theorem Arranges.mono {k m : Phrase} {w : List (Token α)} {e : Expr α} (h : Arranges k w e)
    (hkm : m.precedence ≤ k.precedence) : Arranges m w e := by
  obtain ⟨written, pending, hpost, hpending, hrun⟩ := h
  refine ⟨written, pending, hpost, ?_, ?_⟩
  · intro p hp
    exact Nat.le_trans hkm (hpending p hp)
  · intro waiting outer rest hw
    apply hrun
    intro p hp
    exact Nat.lt_of_lt_of_le (hw p hp) hkm

/-- An operand is written at once. -/
theorem Arranges.operand (a : α) : Arranges .factor [.operand a] (.operand a) := by
  refine ⟨[.operand a], [], rfl, by simp, ?_⟩
  intro waiting outer rest _
  show (arrange waiting outer rest).map (.operand a :: ·) = _
  rfl

/-- Parentheses release all that waits inside them, and nothing else. -/
theorem Arranges.parens {w : List (Token α)} {e : Expr α} (h : Arranges .sum w e) :
    Arranges .factor (.lparen :: w ++ [.rparen]) e := by
  obtain ⟨written, pending, hpost, -, hrun⟩ := h
  refine ⟨e.postorder, [], by simp, by simp, ?_⟩
  intro waiting outer rest _
  -- inside the parentheses nothing waits yet; what waited before is put aside
  have hopen : arrange waiting outer (.lparen :: w ++ [.rparen] ++ rest)
      = arrange [] (waiting :: outer) (w ++ .rparen :: rest) := by
    simp [arrange]
  rw [hopen, hrun [] (waiting :: outer) (.rparen :: rest) (by simp), List.append_nil, hpost]
  show ((arrange waiting outer rest).map (pending.map .operator ++ ·)).map (written ++ ·) = _
  rw [Option.map_map]
  simp [Function.comp_def]

/-- **Grouping to the left.** Behind a phrase of the operator's own precedence and in front of a
    tighter one, the operator releases the first phrase whole and waits for the second. -/
theorem Arranges.binary {k m : Phrase} {o : Operator} {u v : List (Token α)} {l r : Expr α}
    (hk : o.precedence = k.precedence) (hm : k.precedence < m.precedence)
    (hl : Arranges k u l) (hr : Arranges m v r) :
    Arranges k (u ++ .operator o :: v) (.binary o l r) := by
  obtain ⟨written₁, pending₁, hpost₁, hpending₁, hrun₁⟩ := hl
  obtain ⟨written₂, pending₂, hpost₂, hpending₂, hrun₂⟩ := hr
  refine ⟨written₁ ++ pending₁.map .operator ++ written₂, pending₂ ++ [o], ?_, ?_, ?_⟩
  · simp [Expr.postorder, hpost₁, hpost₂]
  · intro p hp
    rcases List.mem_append.1 hp with hp | hp
    · exact Nat.le_trans (Nat.le_of_lt hm) (hpending₂ p hp)
    · obtain rfl := List.mem_singleton.1 hp
      exact Nat.le_of_eq hk.symm
  · intro waiting outer rest hw
    -- once the operator itself waits, the second phrase still finds only looser ones
    have hnext : ∀ p ∈ o :: waiting, p.precedence < m.precedence := by
      intro p hp
      rcases List.mem_cons.1 hp with rfl | hp
      · exact hk ▸ hm
      · exact Nat.lt_trans (hw p hp) hm
    rw [List.append_assoc, List.cons_append, hrun₁ _ _ _ hw,
      arrange_operator (by rwa [hk]) (by rwa [hk]), hrun₂ _ _ _ hnext, Option.map_map, Option.map_map]
    simp [Function.comp_def]

end ReversePolish

open ReversePolish

/-- **Every phrase of the grammar keeps the invariant**: one rule, one case. -/
theorem Derives.arranges {k : Phrase} {w : List (Token α)} {e : Expr α} (h : Derives k w e) :
    Arranges k w e := by
  induction h with
  | operand a => exact .operand a
  | parens _ ih => exact ih.parens
  | factor _ ih => exact ih.mono (by decide)
  | times ho _ _ ihl ihr => exact .binary (by rcases ho with rfl | rfl <;> rfl) (by decide) ihl ihr
  | product _ ih => exact ih.mono (by decide)
  | plus ho _ _ ihl ihr => exact .binary (by rcases ho with rfl | rfl <;> rfl) (by decide) ihl ihr

/-- At the end of the tokens all that waits is written, and the order is complete. -/
theorem ReversePolish.Arranges.ofTokens? {w : List (Token α)} {e : Expr α} (h : Arranges .sum w e) :
    ofTokens? w = some e.postorder := by
  obtain ⟨written, pending, hpost, -, hrun⟩ := h
  have hend := hrun [] [] [] (by simp)
  rw [List.append_nil, List.append_nil] at hend
  rw [ReversePolish.ofTokens?, hend, hpost]
  rfl

/-! ## Reverse Polish order -/

/-- **Precedence, grouping and parentheses.** Tokens that the grammar derives with a tree are put into
    the order of that tree. -/
theorem ofTokens?_eq_postorder {w : List (Token Number)} {e : Expr Number} (h : Derives .sum w e) :
    ReversePolish.ofTokens? w = some e.postorder :=
  h.arranges.ofTokens?

/-- Two differences, the second of a product with a sum between parentheses: `8 - 3 - (2 + 1) * 4`. -/
theorem ofTokens?_eq_postorder_differences :
    ReversePolish.ofTokens? (α := Number)
        [.operand 8, .operator .sub, .operand 3, .operator .sub, .lparen, .operand 2, .operator .add,
          .operand 1, .rparen, .operator .mul, .operand 4]
      = some [.operand 8, .operand 3, .operator .sub, .operand 2, .operand 1, .operator .add,
          .operand 4, .operator .mul, .operator .sub] := by
  have hfactor (n : Number) : Derives .product [.operand n] (.operand n) := .factor (.operand n)
  have hleft := Derives.plus (.inr rfl) (.product (hfactor 8)) (hfactor 3)
  have hinner := Derives.plus (.inl rfl) (.product (hfactor 2)) (hfactor 1)
  have hright := Derives.times (.inl rfl) (.factor (.parens hinner)) (.operand (4 : Number))
  exact ofTokens?_eq_postorder (.plus (.inr rfl) hleft hright)

/-- **No ambiguity.** The tokens of an expression have one tree. -/
theorem Derives.unambiguous {w : List (Token α)} {e f : Expr α} (he : Derives .sum w e)
    (hf : Derives .sum w f) : e = f := by
  have hsame : some e.postorder = some f.postorder := by
    rw [← he.arranges.ofTokens?, ← hf.arranges.ofTokens?]
  exact Expr.postorder_injective (Option.some.inj hsame)

end StringCalculator
