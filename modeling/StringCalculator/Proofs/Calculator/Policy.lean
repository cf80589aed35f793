import StringCalculator.Calculator

/-!
# `StringCalculator.Proofs.Calculator.Policy` — the policy that the settings make

The policy in force is the starting one with three changes: the choice about negative numbers, the bound
brought into its range, and one more delimiter in front of the others, unless none is set. Nothing else of
a calculator has a part in it (`policy_congr`).

## Contents
- **`policy_congr`**, **`policy_of_no_extra`**, **`policy_of_extra`**: what the policy depends on, and how.
- **`bound_policy`**, **`toList_delimiters_policy`**: its bound and its delimiters.
- **`policy_ofPolicy`**: the policy at the start.
-/

namespace StringCalculator.Calculator

variable {c d : Calculator}

/-! ## The bound in its range -/

theorem clampedBound_nonneg (c : Calculator) : 0 ≤ c.clampedBound.toInt := by
  rw [toInt_clampedBound]
  omega

theorem clampedBound_le (c : Calculator) : c.clampedBound.toInt ≤ c.maxBound.toInt := by
  have top := c.toInt_maxBound
  rw [toInt_clampedBound]
  omega

/-- A bound in its range is left as it is. -/
theorem clampedBound_eq_self (low : 0 ≤ c.bound.toInt) (high : c.bound.toInt ≤ c.maxBound.toInt) :
    c.clampedBound = c.bound := by
  rw [← Int64.toInt_inj, toInt_clampedBound]
  omega

/-- A bound that was brought into its range stays there. -/
theorem clampedBound_clampedBound (top : d.maxBound = c.maxBound) (hbound : d.bound = c.clampedBound) :
    d.clampedBound = c.clampedBound := by
  rw [clampedBound_eq_self (hbound ▸ c.clampedBound_nonneg) (top ▸ hbound ▸ c.clampedBound_le), hbound]

/-- The bound at the start never lies above its range. -/
theorem le_maxBound_ofPolicy (p : Policy) : (ofPolicy p).bound.toInt ≤ (ofPolicy p).maxBound.toInt := by
  rw [toInt_maxBound]
  exact Int.le_max_right _ _

/-! ## The policy in force -/

/-- The policy depends on the starting one and on the settings. -/
theorem policy_congr (hstart : c.start = d.start) (hnegatives : c.allowsNegatives = d.allowsNegatives)
    (hbound : c.clampedBound = d.clampedBound) (hextra : c.extraDelimiter = d.extraDelimiter) :
    c.policy = d.policy := by
  rw [policy, policy, hstart, hnegatives, hbound, hextra]

theorem policy_of_no_extra (h : c.extraDelimiter = []) :
    c.policy = { c.start with refusesNegatives := !c.allowsNegatives, bound := c.clampedBound } := by
  have hnone : Delimiters.ofList [Typed.decode c.extraDelimiter] = .error .emptyDelimiter :=
    Delimiters.ofList_eq_error_iff.2 ⟨by simp [h], rfl⟩
  rw [policy, hnone]

/-- The extra delimiter is meant as it was typed, with line feeds for their two characters. -/
theorem policy_of_extra {extra : Delimiters}
    (h : Delimiters.ofList [Typed.decode c.extraDelimiter] = .ok extra) :
    c.policy =
      Policy.withDelimiters
        { c.start with refusesNegatives := !c.allowsNegatives, bound := c.clampedBound } extra := by
  rw [policy, h]

/-- An extra delimiter that is not empty makes a set of its own. -/
theorem exists_extra (h : c.extraDelimiter ≠ []) :
    ∃ extra, Delimiters.ofList [Typed.decode c.extraDelimiter] = .ok extra
      ∧ extra.toList = [Typed.decode c.extraDelimiter] :=
  Delimiters.exists_ofList_singleton (mt Typed.decode_eq_nil_iff.1 h)

/-- The extra delimiter has a part in the delimiters alone. -/
theorem policy_eq (c : Calculator) :
    c.policy =
      { refusesNegatives := !c.allowsNegatives
        bound := c.clampedBound
        delimiters := c.policy.delimiters } := by
  by_cases h : c.extraDelimiter = []
  · rw [policy_of_no_extra h]
  · obtain ⟨extra, hextra, -⟩ := exists_extra h
    rw [policy_of_extra hextra, Policy.withDelimiters]

theorem bound_policy (c : Calculator) : c.policy.bound = c.clampedBound := by rw [policy_eq]

/-- **The delimiters in force** are those of the starting policy in their order. An extra one stands in front
    of them, and is not repeated. -/
theorem toList_delimiters_policy (c : Calculator) :
    c.policy.delimiters.toList =
      if c.extraDelimiter = [] then c.start.delimiters.toList
      else Typed.decode c.extraDelimiter
        :: c.start.delimiters.toList.filter (· ≠ Typed.decode c.extraDelimiter) := by
  by_cases h : c.extraDelimiter = []
  · rw [if_pos h, policy_of_no_extra h]
  · obtain ⟨extra, hextra, hlist⟩ := exists_extra h
    rw [if_neg h, policy_of_extra hextra]
    simp [Policy.withDelimiters, Delimiters.merge, hlist]

/-- **The policy at the start** is the starting one; only a negative bound counts as zero. -/
theorem policy_ofPolicy (p : Policy) :
    (ofPolicy p).policy = { p with bound := if p.bound < 0 then 0 else p.bound } := by
  have hbound : (ofPolicy p).clampedBound = if p.bound < 0 then 0 else p.bound := by
    have top := le_maxBound_ofPolicy p
    rw [clampedBound, if_neg (c := (ofPolicy p).maxBound < _) (by rw [Int64.lt_iff_toInt_lt]; omega)]
    rfl
  rw [policy_of_no_extra rfl, hbound]
  simp [ofPolicy]

end StringCalculator.Calculator
