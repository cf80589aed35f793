import StringCalculator.Error
import StringCalculator.Token

/-!
# `StringCalculator.Proofs.Expr` — expression trees

What a list of tokens stands for, apart from any way of finding it. A tree says which operand belongs
to which operator; everything a calculation shows of it is a function of the tree: its reverse Polish
order, its text with all parentheses, its exact value, and the operators that fail on the way.

Values are exact integers here. Whether they fit into numbers is asked afterwards, so that no
statement about a result rests on the arithmetic of numbers itself.

## Contents
- **`Expr`**, with `postorder`, `spelled` and `operands`.
- **`Expr.postorder_injective`**: reverse Polish order forgets nothing.
- **`Expr.value`, `Expr.render`**: the exact value, by the operations of the integers, and the text with all
  parentheses.
- **`Expr.Computable`, `Expr.faults`**: no operator fails; the failures in the order of evaluation.
-/

namespace StringCalculator

/-- An operand, or an operator between two expressions. -/
inductive Expr (α : Type) where
  | operand (value : α)
  | binary (o : Operator) (left right : Expr α)
  deriving DecidableEq, Repr

namespace Expr

variable {α : Type}

/-! ## Tokens of a tree -/

/-- The tokens in reverse Polish order: each operator behind its two operands. -/
def postorder : Expr α → List (Token α)
  | operand a => [.operand a]
  | binary o l r => l.postorder ++ r.postorder ++ [.operator o]

/-- The tokens in the order of reading, each operator with parentheses of its own. -/
def spelled : Expr α → List (Token α)
  | operand a => [.operand a]
  | binary o l r => .lparen :: l.spelled ++ .operator o :: r.spelled ++ [.rparen]

/-- The operands from left to right. -/
def operands : Expr α → List α
  | operand a => [a]
  | binary _ l r => l.operands ++ r.operands

/-- Reverse Polish order keeps the operands from left to right. -/
theorem filterMap_operand?_postorder (e : Expr α) :
    e.postorder.filterMap Token.operand? = e.operands := by
  induction e with
  | operand a => rfl
  | binary o l r ihl ihr => simp [postorder, operands, ihl, ihr, Token.operand?]

/-- So does the order of reading. -/
theorem filterMap_operand?_spelled (e : Expr α) :
    e.spelled.filterMap Token.operand? = e.operands := by
  induction e with
  | operand a => rfl
  | binary o l r ihl ihr => simp [spelled, operands, ihl, ihr, List.filterMap_cons, Token.operand?]

/-- **No tree ends another.** The last tokens of a list are the order of at most one tree, so a list
    that ends with an order can be cut in one way only. -/
theorem append_postorder_inj {e f : Expr α} {u v : List (Token α)}
    (h : u ++ e.postorder = v ++ f.postorder) : u = v ∧ e = f := by
  induction e generalizing f u v with
  | operand a =>
    cases f with
    | operand b =>
      -- one token each, so the lists are cut at the same place
      obtain ⟨huv, hab⟩ := List.append_inj' h rfl
      exact ⟨huv, by simpa [postorder] using hab⟩
    | binary o l r =>
      -- the last token would be an operand and an operator
      have hlast := congrArg List.getLast? h
      simp [postorder] at hlast
  | binary o l r ihl ihr =>
    cases f with
    | operand b =>
      have hlast := congrArg List.getLast? h
      simp [postorder] at hlast
    | binary p l' r' =>
      simp only [postorder, ← List.append_assoc] at h
      obtain ⟨hinit, hop⟩ := List.append_inj' h rfl
      -- the right operand is what the remaining list ends with, then the left one
      obtain ⟨hrest, hr⟩ := ihr hinit
      obtain ⟨huv, hl⟩ := ihl hrest
      have hop : o = p := by simpa using hop
      exact ⟨huv, by rw [hop, hl, hr]⟩

/-- **Reverse Polish order needs no parentheses**: different trees have different orders. -/
theorem postorder_injective {e f : Expr α} (h : e.postorder = f.postorder) : e = f := by
  have hempty : [] ++ e.postorder = [] ++ f.postorder := by rw [h]
  exact (append_postorder_inj hempty).2

end Expr

/-! ## Values -/

/-- The integer is the value of a number. -/
def Number.InRange (z : Int) : Prop := Int64.minValue.toInt ≤ z ∧ z ≤ Int64.maxValue.toInt

instance (z : Int) : Decidable (Number.InRange z) := inferInstanceAs (Decidable (_ ∧ _))

theorem Number.inRange_toInt (n : Number) : InRange n.toInt := ⟨n.minValue_le_toInt, n.toInt_le⟩

theorem Number.toInt_ofInt {z : Int} (h : InRange z) : (Int64.ofInt z).toInt = z :=
  Int64.toInt_ofInt_of_le h.1 (Int.lt_add_one_of_le h.2)

theorem Number.ofInt?_eq (z : Int) :
    Number.ofInt? z = if InRange z then some (Int64.ofInt z) else none := rfl

/-- Why the operator fails with that right operand and that exact result, if it does. -/
def Operator.fault? (o : Operator) (right result : Int) : Option CalculationError :=
  if o = .div ∧ right = 0 then some .divisionByZero
  else if Number.InRange result then none
  else some .overflow

theorem Operator.fault?_eq_none_iff {o : Operator} {right result : Int} :
    o.fault? right result = none ↔ ¬(o = .div ∧ right = 0) ∧ Number.InRange result := by
  unfold fault?
  by_cases hz : o = .div ∧ right = 0
  · simp [hz]
  · -- the divisor is no zero, so the range decides
    by_cases hr : Number.InRange result <;> simp [hz, hr]

namespace Expr

/-- The exact value over the unbounded integers: the sum, the difference, the product, or the quotient
    cut off toward zero. -/
def value : Expr Number → Int
  | operand n => n.toInt
  | binary .add l r => l.value + r.value
  | binary .sub l r => l.value - r.value
  | binary .mul l r => l.value * r.value
  | binary .div l r => l.value.tdiv r.value

/-- The operators of a calculation mean those of the integers. -/
theorem value_binary (o : Operator) (l r : Expr Number) :
    (binary o l r).value = o.exact l.value r.value := by
  cases o <;> rfl

/-- The text: operands in decimal, and every operator with its own pair of parentheses. -/
def render : Expr Number → Text
  | operand n => n.text
  | binary o l r => ['('] ++ l.render ++ [' ', o.symbol, ' '] ++ r.render ++ [')']

/-- No divisor is zero, and no value on the way lies outside the range of numbers. -/
def Computable : Expr Number → Prop
  | operand _ => True
  | binary o l r =>
    l.Computable ∧ r.Computable ∧ ¬(o = .div ∧ r.value = 0) ∧ Number.InRange (binary o l r).value

/-- Why the operators fail, in the order in which they are evaluated. Only the first counts: behind
    it the values are not those of any calculation. -/
def faults : Expr Number → List CalculationError
  | operand _ => []
  | binary o l r => l.faults ++ r.faults ++ (o.fault? r.value (binary o l r).value).toList

/-- An expression can be computed if nothing in it fails. -/
theorem faults_eq_nil_iff {e : Expr Number} : e.faults = [] ↔ e.Computable := by
  induction e with
  | operand n => simp [faults, Computable]
  | binary o l r ihl ihr =>
    simp only [faults, Computable, List.append_eq_nil_iff, Option.toList_eq_nil_iff, ihl, ihr,
      Operator.fault?_eq_none_iff, and_assoc]

/-- An operator fails by a zero divisor or by a value out of range, and in no other way. -/
theorem eq_of_mem_faults {e : Expr Number} {fault : CalculationError} (h : fault ∈ e.faults) :
    fault = .divisionByZero ∨ fault = .overflow := by
  induction e with
  | operand n => cases h
  | binary o l r ihl ihr =>
    simp only [faults, List.mem_append] at h
    rcases h with (h | h) | h
    · exact ihl h
    · exact ihr h
    · have hfault : o.fault? r.value (binary o l r).value = some fault := by simpa using h
      unfold Operator.fault? at hfault
      split at hfault
      · exact .inl (Option.some.inj hfault).symm
      · split at hfault
        · cases hfault
        · exact .inr (Option.some.inj hfault).symm

theorem Computable.inRange {e : Expr Number} (h : e.Computable) : Number.InRange e.value := by
  cases e with
  | operand n => exact Number.inRange_toInt n
  | binary o l r => exact h.2.2.2

end Expr

end StringCalculator
