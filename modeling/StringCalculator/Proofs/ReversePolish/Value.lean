import StringCalculator.Proofs.Expr
import StringCalculator.ReversePolish.Value

/-!
# `StringCalculator.Proofs.ReversePolish.Value` — a reverse Polish list means a tree

Evaluation runs over a stack and knows no tree. Two inductions tie the two together.

* Forward, over the tree: the order of a tree, run on any stack, has the tree's own outcome. It pushes
  the exact value with the text, or it stops at the first operator that fails.
* Backward, over the run: a stack that was reached is a forest. One more token extends the forest by
  just that token, so a list that leaves one result is the order of one tree.

With both, the outcome of every list is settled, whether or not it is the order of a tree.

## Contents
- **`ArithmeticOutcome`**: a value, or one of the two failures of arithmetic.
- **`Expr.outcome`**: a tree's text and exact value, or its first failure.
- **`foldlM_step_postorder`**: the forward induction.
- **`Forest`, `Forest.step`, `Forest.run`**: the backward induction.
- **`exists_computable_of_evaluate`**: a list with a value is the order of a tree that can be computed.
- **`evaluate_characterized`**: the outcome of every list.
-/

namespace StringCalculator

open ReversePolish

/-! ## The outcome of a tree -/

/-- One operator on two numbers has their exact result, unless it fails. -/
theorem Operator.apply_eq (o : Operator) (a b : Number) :
    o.apply a b = match o.fault? b.toInt (o.exact a.toInt b.toInt) with
      | some e => .error e
      | none => .ok (Int64.ofInt (o.exact a.toInt b.toInt)) := by
  have hzero : b = 0 ↔ b.toInt = 0 := by
    rw [← Int64.toInt_inj]
    rfl
  unfold apply fault?
  by_cases hz : o = .div ∧ b = 0
  · rw [if_pos hz, if_pos ⟨hz.1, hzero.1 hz.2⟩]
  · have hz' : ¬(o = .div ∧ b.toInt = 0) := fun h => hz ⟨h.1, hzero.2 h.2⟩
    rw [if_neg hz, if_neg hz', Number.ofInt?_eq]
    by_cases hr : Number.InRange (o.exact a.toInt b.toInt)
    · rw [if_pos hr, if_pos hr]
    · rw [if_neg hr, if_neg hr]

/-- There is a value, or a divisor is zero, or a value lies out of range. -/
def ArithmeticOutcome {α : Type} (x : Except CalculationError α) : Prop :=
  (∃ a, x = .ok a) ∨ x = .error .divisionByZero ∨ x = .error .overflow

theorem ArithmeticOutcome.map {α β : Type} {x : Except CalculationError α} (h : ArithmeticOutcome x)
    (f : α → β) : ArithmeticOutcome (x.map f) := by
  rcases h with ⟨a, rfl⟩ | rfl | rfl
  · exact .inl ⟨f a, rfl⟩
  · exact .inr (.inl rfl)
  · exact .inr (.inr rfl)

namespace Expr

/-- The value with the text, or the first failure in the order of evaluation. -/
def outcome (e : Expr Number) : Except CalculationError Result :=
  match e.faults.head? with
  | some fault => .error fault
  | none => .ok ⟨Int64.ofInt e.value, e.render⟩

theorem outcome_of_computable {e : Expr Number} (h : e.Computable) :
    e.outcome = .ok ⟨Int64.ofInt e.value, e.render⟩ := by
  rw [outcome, faults_eq_nil_iff.2 h]
  rfl

theorem outcome_of_not_computable {e : Expr Number} (h : ¬e.Computable) :
    ∃ fault, e.faults.head? = some fault ∧ e.outcome = .error fault := by
  rw [← faults_eq_nil_iff] at h
  obtain ⟨fault, rest, hfaults⟩ := List.exists_cons_of_ne_nil h
  exact ⟨fault, by rw [hfaults, List.head?_cons], by rw [outcome, hfaults, List.head?_cons]⟩

/-- A tree has no other outcomes. -/
theorem arithmeticOutcome_outcome (e : Expr Number) : ArithmeticOutcome e.outcome := by
  by_cases h : e.Computable
  · exact .inl ⟨_, outcome_of_computable h⟩
  · obtain ⟨fault, hfirst, hout⟩ := outcome_of_not_computable h
    rw [hout]
    rcases eq_of_mem_faults (List.mem_of_head? hfirst) with rfl | rfl
    · exact .inr (.inl rfl)
    · exact .inr (.inr rfl)

/-- **The order of evaluation**: the left operand, the right operand, then the operator. What fails
    first ends it. -/
theorem outcome_binary (o : Operator) (l r : Expr Number) :
    (binary o l r).outcome
      = l.outcome.bind fun a => r.outcome.bind fun b => Result.combine o a b := by
  by_cases hl : l.Computable
  · by_cases hr : r.Computable
    · rw [outcome_of_computable hl, outcome_of_computable hr]
      show _ = (o.apply (Int64.ofInt l.value) (Int64.ofInt r.value)).map _
      rw [Operator.apply_eq, Number.toInt_ofInt hl.inRange, Number.toInt_ofInt hr.inRange, outcome,
        faults, faults_eq_nil_iff.2 hl, faults_eq_nil_iff.2 hr, value_binary]
      -- both operands are there, so the failure is that of the operator
      cases o.fault? r.value (o.exact l.value r.value) with
      | none => simp [Except.map, render, enclosed]
      | some fault => rfl
    · obtain ⟨fault, hfirst, hout⟩ := outcome_of_not_computable hr
      rw [outcome_of_computable hl, hout, outcome, faults, faults_eq_nil_iff.2 hl, List.nil_append,
        List.head?_append, hfirst]
      rfl
  · obtain ⟨fault, hfirst, hout⟩ := outcome_of_not_computable hl
    rw [hout, outcome, faults, List.append_assoc, List.head?_append, hfirst]
    rfl

end Expr

namespace ReversePolish

/-! ## Forward: the order of a tree has the outcome of the tree -/

/-- **A tree is one push.** Run on any stack, the order of a tree puts the tree's outcome on top. -/
theorem foldlM_step_postorder (e : Expr Number) (stack : List Result) :
    e.postorder.foldlM step stack = e.outcome.map (· :: stack) := by
  induction e generalizing stack with
  | operand n =>
    show Except.ok (Result.ofNumber n :: stack) = _
    rw [Expr.outcome_of_computable (e := .operand n) trivial]
    simp [Expr.value, Expr.render, Result.ofNumber, Except.map]
  | binary o l r ihl ihr =>
    rw [Expr.postorder, List.foldlM_append, List.foldlM_append, ihl, Expr.outcome_binary]
    -- the first operand that fails ends the run, in the tree and over the stack
    cases l.outcome with
    | error fault => rfl
    | ok a =>
      show (r.postorder.foldlM step (a :: stack) >>= _) = _
      rw [ihr]
      cases r.outcome with
      | error fault => rfl
      | ok b =>
        show ((Result.combine o a b).map (· :: stack) >>= pure) = (Result.combine o a b).map _
        cases Result.combine o a b <;> rfl

theorem evaluate_postorder (e : Expr Number) : evaluate e.postorder = e.outcome := by
  rw [evaluate, foldlM_step_postorder]
  cases e.outcome <;> rfl

/-! ## Backward: a stack is a forest -/

/-- **The invariant of a run.** The tokens read are the orders of as many trees as there are results,
    the tree of the top result last. -/
def Forest (ts : List (Token Number)) (stack : List Result) : Prop :=
  ∃ trees : List (Expr Number), trees.length = stack.length ∧ ts = trees.reverse.flatMap Expr.postorder

/-- One step keeps the invariant: an operand is a new tree, an operator joins the two upper ones. -/
theorem Forest.step {ts : List (Token Number)} {stack stack' : List Result} {t : Token Number}
    (h : Forest ts stack) (hstep : ReversePolish.step stack t = .ok stack') :
    Forest (ts ++ [t]) stack' := by
  obtain ⟨trees, hlen, rfl⟩ := h
  cases t with
  | operand n =>
    cases hstep
    exact ⟨.operand n :: trees, by simp [hlen], by simp [Expr.postorder]⟩
  | operator o =>
    rcases stack with _ | ⟨b, _ | ⟨a, stack⟩⟩
    · cases hstep
    · cases hstep
    · -- at least two results, so at least two trees
      rcases trees with _ | ⟨r, _ | ⟨l, trees⟩⟩
      · simp at hlen
      · simp at hlen
      · refine ⟨.binary o l r :: trees, ?_, by simp [Expr.postorder]⟩
        simp only [ReversePolish.step] at hstep
        cases hc : Result.combine o a b with
        | error fault =>
          rw [hc] at hstep
          cases hstep
        | ok c =>
          rw [hc] at hstep
          cases hstep
          simpa using hlen
  | lparen => cases hstep
  | rparen => cases hstep

/-- A whole run keeps the invariant. -/
theorem Forest.run {read ts : List (Token Number)} {stack stack' : List Result}
    (h : Forest read stack) (hrun : ts.foldlM ReversePolish.step stack = .ok stack') :
    Forest (read ++ ts) stack' := by
  induction ts generalizing read stack with
  | nil =>
    cases hrun
    rwa [List.append_nil]
  | cons t ts ih =>
    rw [List.foldlM_cons] at hrun
    cases hs : ReversePolish.step stack t with
    | error fault =>
      rw [hs] at hrun
      cases hrun
    | ok next =>
      rw [hs] at hrun
      rw [List.append_cons]
      exact ih (h.step hs) hrun

/-- A list with a value is the order of a tree. -/
theorem exists_postorder_of_evaluate {ts : List (Token Number)} {result : Result}
    (h : evaluate ts = .ok result) : ∃ e : Expr Number, e.postorder = ts := by
  unfold evaluate at h
  cases hrun : ts.foldlM step [] with
  | error fault =>
    rw [hrun] at h
    cases h
  | ok stack =>
    rw [hrun] at h
    have hforest : Forest ([] ++ ts) stack := Forest.run ⟨[], rfl, rfl⟩ hrun
    obtain ⟨trees, hlen, hts⟩ := hforest
    rcases stack with _ | ⟨top, _ | ⟨_, _⟩⟩
    · cases h
    · obtain ⟨e, rfl⟩ := List.length_eq_one_iff.1 hlen
      exact ⟨e, by simpa using hts.symm⟩
    · cases h

/-- **Only trees that can be computed have values**, and the result is that of the tree. -/
theorem exists_computable_of_evaluate {ts : List (Token Number)} {result : Result}
    (h : evaluate ts = .ok result) :
    ∃ e : Expr Number, e.postorder = ts ∧ e.Computable
      ∧ result = ⟨Int64.ofInt e.value, e.render⟩ := by
  obtain ⟨e, rfl⟩ := exists_postorder_of_evaluate h
  rw [evaluate_postorder] at h
  by_cases hc : e.Computable
  · rw [Expr.outcome_of_computable hc] at h
    cases h
    exact ⟨e, rfl, hc, rfl⟩
  · obtain ⟨fault, -, hout⟩ := Expr.outcome_of_not_computable hc
    rw [hout] at h
    cases h

/-! ## Every list -/

/-- **The outcome of every list.** A list has a value just when it is the order of a tree that can be
    computed; the value is the exact one, and the formula is the text of the tree. The order of a tree
    that cannot be computed has the first failure of the tree, and a list that is the order of no tree
    has an error. -/
theorem evaluate_characterized (ts : List (Token Number)) :
    (∀ v f, evaluate ts = .ok ⟨v, f⟩ ↔
        ∃ e : Expr Number, e.postorder = ts ∧ e.Computable ∧ v.toInt = e.value ∧ f = e.render)
    ∧ (∀ e : Expr Number, e.postorder = ts → ¬e.Computable →
        ∃ fault, e.faults.head? = some fault ∧ evaluate ts = .error fault)
    ∧ ((∀ e : Expr Number, e.postorder ≠ ts) → ∃ fault, evaluate ts = .error fault) := by
  refine ⟨?_, ?_, ?_⟩
  · intro v f
    constructor
    · intro h
      obtain ⟨e, hpost, hc, hresult⟩ := exists_computable_of_evaluate h
      cases hresult
      exact ⟨e, hpost, hc, Number.toInt_ofInt hc.inRange, rfl⟩
    · rintro ⟨e, rfl, hc, hv, rfl⟩
      rw [evaluate_postorder, Expr.outcome_of_computable hc, ← hv, Int64.ofInt_toInt]
  · rintro e rfl hc
    rw [evaluate_postorder]
    exact Expr.outcome_of_not_computable hc
  · intro hnone
    cases h : evaluate ts with
    | error fault => exact ⟨fault, rfl⟩
    | ok result =>
      obtain ⟨e, he⟩ := exists_postorder_of_evaluate h
      exact absurd he (hnone e)

/-- The one quotient of numbers that is none. -/
example : evaluate [.operand Int64.minValue, .operand (-1), .operator .div] = .error .overflow := rfl

end ReversePolish

end StringCalculator
