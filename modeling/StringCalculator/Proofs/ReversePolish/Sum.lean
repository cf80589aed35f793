import Mathlib.Algebra.Order.BigOperators.Group.List
import Mathlib.Algebra.Order.Ring.Int
import Mathlib.Data.List.Induction
import Mathlib.Data.List.Infix
import StringCalculator.Proofs.ReversePolish.Grammar
import StringCalculator.Proofs.ReversePolish.Value

/-!
# `StringCalculator.Proofs.ReversePolish.Sum` — long sums

A list of numbers with a plus between neighbours is one sum grouped to the left. Its value is the sum of
the integers, and its text has all parentheses at the front. It fails in one way only: some partial sum
from the left is out of range. So everything about it can be told of the list of integers alone, and
where none of them is negative the total tells it.

All inductions append one summand at the right end, which is where the tree grows.

## Contents
- **`Summands.tokens`, `Summands.tree`**: a sum as tokens and as a tree.
- **`Summands.text`, `Summands.Fit`**: the text of a sum, and sums whose partial sums are in range.
- **`Summands.outcome_tree_of_fit`, `Summands.outcome_tree_of_not_fit`**: the outcome of a sum.
- **`Summands.fit_iff_of_nonneg`**: sums without negative summands.
-/

namespace StringCalculator

namespace Summands

variable {α : Type}

/-- The operands with a plus between neighbours. -/
def tokens (a : α) (as : List α) : List (Token α) :=
  .operand a :: as.flatMap fun b => [.operator .add, .operand b]

/-- The sum, grouped to the left. -/
def tree (a : α) (as : List α) : Expr α := as.foldl (fun e b => .binary .add e (.operand b)) (.operand a)

/-- The text of a sum, grouped to the left: each plus has its own pair of parentheses. -/
def text : List Int → Text
  | [] => []
  | k :: ks => ks.foldl (fun t m => ['('] ++ t ++ [' ', '+', ' '] ++ Decimal.ofInt m ++ [')']) (Decimal.ofInt k)

/-- The partial sums from the left are in the range of numbers. -/
def Fit (ks : List Int) : Prop := ∀ front, front <+: ks → Number.InRange front.sum

instance (ks : List Int) : Decidable (Fit ks) :=
  decidable_of_iff (∀ front ∈ ks.inits, Number.InRange front.sum) (by simp only [Fit, List.mem_inits])

/-! ## One more summand -/

theorem tokens_concat (a : α) (as : List α) (b : α) :
    tokens a (as ++ [b]) = tokens a as ++ [.operator .add, .operand b] := by
  simp [tokens]

theorem tree_concat (a : α) (as : List α) (b : α) :
    tree a (as ++ [b]) = .binary .add (tree a as) (.operand b) := by
  simp [tree]

theorem text_concat (k : Int) (ks : List Int) (m : Int) :
    text (k :: ks ++ [m]) = ['('] ++ text (k :: ks) ++ [' ', '+', ' '] ++ Decimal.ofInt m ++ [')'] := by
  simp [text]

theorem map_tokens {β : Type} (f : α → β) (a : α) (as : List α) :
    (tokens a as).map (Token.map f) = tokens (f a) (as.map f) := by
  induction as using List.reverseRecOn with
  | nil => rfl
  | append_singleton as b ih =>
    rw [tokens_concat, List.map_append, ih, List.map_append]
    show _ = tokens (f a) (as.map f ++ [f b])
    rw [tokens_concat]
    rfl

theorem filterMap_operand?_tokens (a : α) (as : List α) :
    (tokens a as).filterMap Token.operand? = a :: as := by
  induction as using List.reverseRecOn with
  | nil => rfl
  | append_singleton as b ih =>
    rw [tokens_concat, List.filterMap_append, ih]
    rfl

theorem fit_nil : Fit [] := by
  intro front hfront
  rw [List.prefix_nil.1 hfront]
  decide

/-- One more summand is one more partial sum, the whole one. -/
theorem fit_concat {ks : List Int} {m : Int} :
    Fit (ks ++ [m]) ↔ Fit ks ∧ Number.InRange (ks ++ [m]).sum := by
  constructor
  · intro h
    refine ⟨?_, h _ (List.prefix_refl _)⟩
    intro front hfront
    exact h front (hfront.trans (List.prefix_append _ _))
  · rintro ⟨hks, htotal⟩ front hfront
    rcases List.prefix_concat_iff.1 hfront with rfl | hfront
    · exact htotal
    · exact hks front hfront

/-- A last summand that is zero does not count. -/
theorem fit_append_zero {ks : List Int} : Fit (ks ++ [0]) ↔ Fit ks := by
  have hsum : (ks ++ [0]).sum = ks.sum := by simp
  rw [fit_concat, hsum]
  constructor
  · rintro ⟨hks, -⟩
    exact hks
  · intro hks
    exact ⟨hks, hks ks (List.prefix_refl ks)⟩

/-! ## The tree of a sum -/

/-- **The tokens of a sum** are an expression with the tree of the sum. -/
theorem derives_tokens (a : α) (as : List α) : Derives .sum (tokens a as) (tree a as) := by
  induction as using List.reverseRecOn with
  | nil => exact .product (.factor (.operand a))
  | append_singleton as b ih =>
    rw [tokens_concat, tree_concat]
    exact .plus (.inl rfl) ih (.factor (.operand b))

variable (n : Number) (ns : List Number)

theorem value_tree : (tree n ns).value = ((n :: ns).map Int64.toInt).sum := by
  induction ns using List.reverseRecOn with
  | nil => simp [tree, Expr.value]
  | append_singleton ns m ih =>
    rw [tree_concat, Expr.value, ih]
    simp [Expr.value, Int.add_assoc]

theorem render_tree : (tree n ns).render = text ((n :: ns).map Int64.toInt) := by
  induction ns using List.reverseRecOn with
  | nil => rfl
  | append_singleton ns m ih =>
    have hmap : (n :: (ns ++ [m])).map Int64.toInt = n.toInt :: ns.map Int64.toInt ++ [m.toInt] := by simp
    rw [tree_concat, hmap, text_concat, Expr.render, ih]
    rfl

/-- A sum can be computed just if its partial sums are in range. -/
theorem computable_tree_iff : (tree n ns).Computable ↔ Fit ((n :: ns).map Int64.toInt) := by
  induction ns using List.reverseRecOn with
  | nil =>
    have hsum : Number.InRange ([] ++ [n.toInt]).sum := by simpa using n.inRange_toInt
    exact iff_of_true trivial (fit_concat.2 ⟨fit_nil, hsum⟩)
  | append_singleton ns m ih =>
    have hmap : (n :: (ns ++ [m])).map Int64.toInt = (n :: ns).map Int64.toInt ++ [m.toInt] := by simp
    have hvalue : (tree n (ns ++ [m])).value = ((n :: ns).map Int64.toInt ++ [m.toInt]).sum := by
      rw [value_tree, hmap]
    rw [tree_concat] at hvalue ⊢
    rw [hmap, fit_concat, ← hvalue, ← ih]
    simp [Expr.Computable, Expr.value]

/-- Nothing but its range can be wrong with a sum. -/
theorem eq_overflow_of_mem_faults {fault : CalculationError} (h : fault ∈ (tree n ns).faults) :
    fault = .overflow := by
  induction ns using List.reverseRecOn with
  | nil => cases h
  | append_singleton ns m ih =>
    rw [tree_concat, Expr.faults, List.mem_append, List.mem_append] at h
    rcases h with (h | h) | h
    · exact ih h
    · cases h
    · have hfault := Option.mem_toList.1 h
      unfold Operator.fault? at hfault
      rw [if_neg (by simp)] at hfault
      split at hfault
      · cases hfault
      · exact (Option.some.inj hfault).symm

/-! ## The outcome of a sum -/

/-- A sum in range has the sum of the integers, and its text. -/
theorem outcome_tree_of_fit (h : Fit ((n :: ns).map Int64.toInt)) :
    (tree n ns).outcome
      = .ok ⟨Int64.ofInt ((n :: ns).map Int64.toInt).sum, text ((n :: ns).map Int64.toInt)⟩ := by
  rw [Expr.outcome_of_computable ((computable_tree_iff n ns).2 h), value_tree, render_tree]

/-- A sum whose partial sums leave the range overflows. -/
theorem outcome_tree_of_not_fit (h : ¬Fit ((n :: ns).map Int64.toInt)) :
    (tree n ns).outcome = .error .overflow := by
  have hnot : ¬(tree n ns).Computable := fun hc => h ((computable_tree_iff n ns).1 hc)
  obtain ⟨fault, hfirst, hout⟩ := Expr.outcome_of_not_computable hnot
  rw [hout, eq_overflow_of_mem_faults n ns (List.mem_of_head? hfirst)]

/-- **Without negative summands the total decides**, since no partial sum is larger. -/
theorem fit_iff_of_nonneg {ks : List Int} (h : ∀ k ∈ ks, 0 ≤ k) :
    Fit ks ↔ ks.sum ≤ Int64.maxValue.toInt := by
  constructor
  · intro hfit
    exact (hfit ks (List.prefix_refl ks)).2
  · rintro htotal front ⟨rest, rfl⟩
    have hfront : 0 ≤ front.sum := List.sum_nonneg fun k hk => h k (List.mem_append_left _ hk)
    have hrest : 0 ≤ rest.sum := List.sum_nonneg fun k hk => h k (List.mem_append_right _ hk)
    have hsum : (front ++ rest).sum = front.sum + rest.sum := List.sum_append
    have hmin : Int64.minValue.toInt ≤ 0 := by decide
    exact ⟨by omega, by omega⟩

end Summands

end StringCalculator
