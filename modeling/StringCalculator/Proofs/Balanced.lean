import Mathlib.Data.List.Infix

/-!
# `StringCalculator.Proofs.Balanced` — brackets that match

Two letters of an alphabet are a pair of brackets, all others are no matter. Brackets match if no front
of the list closes more of them than it opens, and the whole list closes as many as it opens.

The condition looks at all fronts at once, while whatever reads a list of brackets counts how many are
open. So it is stated with a number of brackets already open in front of the list, and then it passes
from a list to its tail, one equation for each kind of letter.

## Contents
- **`Balanced`**, decidable, and **`BalancedFrom`**, with brackets open in front.
- **`balancedFrom_nil`**, **`balancedFrom_open`**, **`balancedFrom_close`**, **`balancedFrom_other`**: the
  equations of the count.
-/

namespace StringCalculator

variable {α : Type} [DecidableEq α]

/-- The brackets match: no front closes more than it opens, and the totals agree. -/
def Balanced (opening closing : α) (l : List α) : Prop :=
  (∀ front, front <+: l → front.count closing ≤ front.count opening)
  ∧ l.count closing = l.count opening

/-- The brackets match behind a number of open ones, all of which are closed. -/
def BalancedFrom (opening closing : α) (depth : Nat) (l : List α) : Prop :=
  (∀ front, front <+: l → front.count closing ≤ depth + front.count opening)
  ∧ l.count closing = depth + l.count opening

instance (opening closing : α) (l : List α) : Decidable (Balanced opening closing l) :=
  decidable_of_iff
    ((∀ front ∈ l.inits, front.count closing ≤ front.count opening)
      ∧ l.count closing = l.count opening)
    (by simp only [Balanced, List.mem_inits])

variable {opening closing : α} {depth : Nat} {l : List α}

theorem balancedFrom_zero_iff : BalancedFrom opening closing 0 l ↔ Balanced opening closing l := by
  simp only [BalancedFrom, Balanced, Nat.zero_add]

/-! ## The count -/

/-- At the end none may be open. -/
theorem balancedFrom_nil : BalancedFrom opening closing depth [] ↔ depth = 0 := by
  simp [BalancedFrom, eq_comm]

/-- The fronts of a list are the empty one and those that start with its first letter. -/
theorem balancedFrom_cons {x : α} :
    BalancedFrom opening closing depth (x :: l)
      ↔ (∀ front, front <+: l →
          (x :: front).count closing ≤ depth + (x :: front).count opening)
        ∧ (x :: l).count closing = depth + (x :: l).count opening := by
  refine and_congr_left fun _ => ?_
  constructor
  · intro h front hfront
    exact h _ (List.cons_prefix_cons.2 ⟨rfl, hfront⟩)
  · intro h front hfront
    rcases List.prefix_cons_iff.1 hfront with rfl | ⟨tail, rfl, htail⟩
    · exact Nat.zero_le _
    · exact h tail htail

/-- An opening bracket is one more open. -/
theorem balancedFrom_open (hne : opening ≠ closing) :
    BalancedFrom opening closing depth (opening :: l) ↔ BalancedFrom opening closing (depth + 1) l := by
  rw [balancedFrom_cons, BalancedFrom]
  simp only [List.count_cons_self, List.count_cons_of_ne hne]
  grind

/-- A closing bracket needs an open one and closes it. -/
theorem balancedFrom_close (hne : opening ≠ closing) :
    BalancedFrom opening closing depth (closing :: l)
      ↔ ∃ outer, depth = outer + 1 ∧ BalancedFrom opening closing outer l := by
  rw [balancedFrom_cons]
  simp only [List.count_cons_self, List.count_cons_of_ne hne.symm]
  constructor
  · rintro ⟨hfronts, htotal⟩
    -- the closing bracket alone is a front
    have hopen := hfronts [] List.nil_prefix
    obtain ⟨outer, rfl⟩ : ∃ outer, depth = outer + 1 := ⟨depth - 1, by simp at hopen; omega⟩
    refine ⟨outer, rfl, ?_, by omega⟩
    intro front hfront
    have := hfronts front hfront
    omega
  · rintro ⟨outer, rfl, hfronts, htotal⟩
    refine ⟨?_, by omega⟩
    intro front hfront
    have := hfronts front hfront
    omega

/-- No other letter counts. -/
theorem balancedFrom_other {x : α} (hopening : x ≠ opening) (hclosing : x ≠ closing) :
    BalancedFrom opening closing depth (x :: l) ↔ BalancedFrom opening closing depth l := by
  rw [balancedFrom_cons, BalancedFrom]
  simp only [List.count_cons_of_ne hopening, List.count_cons_of_ne hclosing]

end StringCalculator
