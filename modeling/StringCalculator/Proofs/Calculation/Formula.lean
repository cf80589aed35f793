import StringCalculator.Proofs.Calculation.Stages
import StringCalculator.Proofs.ReversePolish.Grammar
import StringCalculator.Proofs.ReversePolish.Value
import StringCalculator.Proofs.Scan.Rendered

/-!
# `StringCalculator.Proofs.Calculation.Formula` — a formula is an entry again

The formula of a calculation is the text of a tree. Whatever was dropped on the way from the entry is
not in it any more: delimiters, signs without effect, words that are no numerals, numbers beyond the
bound. What is left is what the policy *admits* (`Policy.Admits`), and an admitted tree goes through all
stages unchanged. So the round trip is one theorem in each direction.

* `exists_admits_of_calculate`: a formula comes from an admitted tree, which settles the value and the
  reverse Polish order too.
* `outcome_calculate_render`: the text of an admitted tree is calculated as that tree.

## Contents
- **`Policy.Admits`**: the trees that a policy leaves as they are.
- **`Expr.exists_cons_render`, `Expr.mem_render`**: how the text of a tree begins, and of what it is made.
- **`calculate_formula`**: the formula, entered again, gives the same calculation.
-/

namespace StringCalculator

/-! ## The text of a tree as an entry -/

theorem Number.exists_cons_text (n : Number) : ∃ c t, n.text = c :: t ∧ (c = '-' ∨ c.isDigit) := by
  obtain ⟨c, t, htext⟩ := List.exists_cons_of_ne_nil n.text_ne_nil
  exact ⟨c, t, htext, n.mem_text (htext ▸ List.mem_cons_self)⟩

namespace Expr

/-- The text of a tree starts with an operand or a parenthesis. -/
theorem exists_cons_render (e : Expr Number) :
    ∃ c t, e.render = c :: t ∧ (c = '(' ∨ c = '-' ∨ c.isDigit) := by
  cases e with
  | operand n =>
    obtain ⟨c, t, htext, hc⟩ := n.exists_cons_text
    exact ⟨c, t, htext, .inr hc⟩
  | binary o l r => exact ⟨'(', _, rfl, .inl rfl⟩

/-- The characters of a text of a tree. -/
theorem mem_render {e : Expr Number} {c : Char} (h : c ∈ e.render) :
    c.isDigit ∨ c ∈ ['(', ')', ' ', '+', '-', '*', '/'] := by
  induction e with
  | operand n =>
    rcases n.mem_text h with rfl | hdigit
    · exact .inr (by decide)
    · exact .inl hdigit
  | binary o l r ihl ihr =>
    have hsymbol : o.symbol ∈ ['(', ')', ' ', '+', '-', '*', '/'] := by cases o <;> decide
    simp only [render, List.mem_append, List.mem_cons, List.not_mem_nil, or_false] at h
    rcases h with (((rfl | h) | rfl | rfl | rfl) | h) | rfl
    · exact .inr (by decide)
    · exact ihl h
    · exact .inr (by decide)
    · exact .inr hsymbol
    · exact .inr (by decide)
    · exact ihr h
    · exact .inr (by decide)

/-- The text of a tree is not blank. -/
theorem isBlank_render (e : Expr Number) : e.render.isBlank = false := by
  obtain ⟨c, t, hrender, hc⟩ := e.exists_cons_render
  have hspace : isSpace c = false := by
    rcases hc with rfl | rfl | hdigit
    · decide
    · decide
    · rw [Bool.eq_false_iff]
      intro hspace
      exact not_separator_of_isDigit hdigit (.inl hspace)
  rw [hrender, Text.isBlank, List.all_cons, hspace, Bool.false_and]

/-- The text of a tree has no header. -/
theorem takeHeader_render (ds : Delimiters) (e : Expr Number) :
    takeHeader ds e.render = pure (ds, e.render) := by
  obtain ⟨c, t, hrender, hc⟩ := e.exists_cons_render
  have hslash : c ≠ '/' := by
    rintro rfl
    rcases hc with h | h | h <;> revert h <;> decide
  rw [hrender, takeHeader]
  simp [hslash]

/-- The comma and the line feed do not occur in the text of a tree. -/
theorem standard_not_infix_render (e : Expr Number) : ∀ d ∈ Delimiters.standard, ¬d <:+: e.render := by
  apply Delimiters.standard_not_infix
  all_goals
    intro hmem
    have hchar := mem_render hmem
    revert hchar
    decide

end Expr

/-! ## The trees that a policy admits -/

/-- The tree can be computed, and the policy neither drops nor refuses any of its operands. -/
structure Policy.Admits (p : Policy) (e : Expr Number) : Prop where
  computable : e.Computable
  within : ∀ n ∈ e.operands, n.Within p.bound
  nonneg : p.refusesNegatives → ∀ n ∈ e.operands, 0 ≤ n.toInt

/-- What a policy makes of an admitted tree. -/
def Expr.calculation (e : Expr Number) (ds : Delimiters) : Calculation where
  value := Int64.ofInt e.value
  formula := e.render
  trace :=
    { delimiters := ds.display
      tokens := Token.display e.spelled
      reversePolish := Token.display e.postorder }

/-- **An admitted tree is calculated as it stands.** -/
theorem outcome_calculate_render {p : Policy} {e : Expr Number} (h : p.Admits e)
    (hds : ∀ d ∈ p.delimiters, ¬d <:+: e.render) :
    (calculate p e.render).outcome = .ok (e.calculation p.delimiters) := by
  have hread := outcome_readTokens_render hds h.within
  have hallowed (hrefuses : p.refusesNegatives) :
      ((e.operands.map Int64.toInt).filter (· < 0)).eraseDups = [] := by
    by_contra hne
    -- a negative value in the list would be that of an operand
    obtain ⟨z, hz, hneg⟩ := eraseDups_filter_neg_ne_nil_iff.1 hne
    obtain ⟨n, hn, rfl⟩ := List.mem_map.1 hz
    have hnonneg := h.nonneg hrefuses n hn
    omega
  have hnonempty : e.spelled ≠ [] := by cases e <;> simp [Expr.spelled]
  have hordered : ReversePolish.ofTokens? e.spelled = some e.postorder :=
    (Derives.product (.factor (.spelled e))).arranges.ofTokens?
  have hheader : (takeHeader p.delimiters e.render).outcome = .ok (p.delimiters, e.render) := by
    rw [e.takeHeader_render]
    rfl
  -- no stage has anything left to do
  rw [outcome_calculate_of_stages e.isBlank_render hheader hread,
    conclude_of_ordered hallowed hnonempty hordered, ReversePolish.evaluate_postorder,
    Expr.outcome_of_computable h.computable]
  rfl

/-- **A formula comes from an admitted tree**, and so do the value and the reverse Polish order. -/
theorem exists_admits_of_calculate {p : Policy} {entry : Text} {c : Calculation}
    (h : (calculate p entry).outcome = .ok c) (hformula : c.formula ≠ []) :
    ∃ e : Expr Number, p.Admits e ∧ c.value = Int64.ofInt e.value ∧ c.formula = e.render
      ∧ c.trace.reversePolish = Token.display e.postorder := by
  rcases calculate_eq_ok h with ⟨-, rfl⟩ | ⟨ds, t, ts, negatives, -, hread, hconclude⟩
  · exact absurd rfl hformula
  · obtain ⟨hrefuses, ⟨-, rfl⟩ | ⟨ordered, r, -, hordered, hevaluate, rfl⟩⟩ :=
      conclude_eq_ok_iff.1 hconclude
    · exact absurd rfl hformula
    · obtain ⟨e, rfl, hcomputable, rfl⟩ := ReversePolish.exists_computable_of_evaluate hevaluate
      -- the operands of the tree are those that were read, in the same order
      have hoperands : e.operands = ts.filterMap Token.operand? := by
        rw [← e.filterMap_operand?_postorder]
        exact ReversePolish.filterMap_operand?_arrange hordered
      have hwithin := within_of_readTokens hread
      rw [← hoperands] at hwithin
      have hadmits : p.Admits e :=
        { computable := hcomputable
          within := fun n hn => (hwithin n hn).1
          nonneg := fun hp n hn => (hwithin n hn).2 (hrefuses hp) }
      exact ⟨e, hadmits, rfl, rfl, rfl⟩

/-! ## The round trip -/

/-- **A formula is an entry again.** Under the same rules and any delimiters that do not occur in it,
    and always under the standard ones, the formula has the value, the formula and the reverse Polish
    order it was found with. -/
theorem calculate_formula {p : Policy} {entry : Text} {c : Calculation} {ds : Delimiters}
    (h : (calculate p entry).outcome = .ok c) (hformula : c.formula ≠ [])
    (hds : ds = .standard ∨ ∀ d ∈ ds, ¬d <:+: c.formula) :
    ∃ c', (calculate { p with delimiters := ds } c.formula).outcome = .ok c'
      ∧ c'.value = c.value ∧ c'.formula = c.formula
      ∧ c'.trace.reversePolish = c.trace.reversePolish := by
  obtain ⟨e, hadmits, hvalue, hrender, htrace⟩ := exists_admits_of_calculate h hformula
  rw [hrender] at hds ⊢
  have hfree : ∀ d ∈ ds, ¬d <:+: e.render := by
    rcases hds with rfl | hds
    · exact e.standard_not_infix_render
    · exact hds
  -- what is admitted does not depend on the delimiters
  have hadmits' : Policy.Admits { p with delimiters := ds } e :=
    ⟨hadmits.computable, hadmits.within, hadmits.nonneg⟩
  exact ⟨_, outcome_calculate_render hadmits' hfree, hvalue.symm, rfl, htrace.symm⟩

/-- A plus sign and a number beyond the bound are gone from the formula, the minus of a number is not. -/
theorem calculate_formula_difference :
    ∃ c c', (calculate { refusesNegatives := false } "5 -+-3,2000".toList).outcome = .ok c
      ∧ c.formula = "((5 - -3) + 0)".toList
      ∧ (calculate { refusesNegatives := false } c.formula).outcome = .ok c'
      ∧ c'.value = c.value ∧ c'.formula = c.formula
      ∧ c'.trace.reversePolish = c.trace.reversePolish := by
  have hc : (calculate { refusesNegatives := false } "5 -+-3,2000".toList).outcome
      = .ok
        { value := 8
          formula := "((5 - -3) + 0)".toList
          trace :=
            { delimiters := Delimiters.standard.display
              tokens := "5 - -3 + 0".toList
              reversePolish := "5 -3 - 0 +".toList } } := by decide +kernel
  obtain ⟨c', hc'⟩ := calculate_formula hc (by decide) (.inl rfl)
  exact ⟨_, c', hc, rfl, hc'⟩

end StringCalculator
