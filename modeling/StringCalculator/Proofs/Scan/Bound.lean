import StringCalculator.Proofs.Scan.Acceptance

/-!
# `StringCalculator.Proofs.Scan.Bound` — what the bound of a policy changes

A text is scanned without the bound: where a fault is and which negative values there are is settled before
the bound is looked at. The bound only decides which readings count, and under a smaller one fewer of them
do. So the tokens under the smaller bound are those under the larger one with zeros in place of the numbers
that lie above the smaller (`Number.upTo`). A number that the larger bound has cut off already is no
exception, since the smaller one cuts it off too; nor is the zero behind a last operator, which stays zero.

## Contents
- **`Number.upTo`**: a number, or zero in its place.
- **`Reading.number_eq_upTo`**, **`Scan.tokens_eq_map_upTo`**: one reading, and the tokens of a scan.
- **`outcome_readTokens_eq_map_upTo`**: what is read under the smaller bound, as a function of what is read
  under the larger.
- **`readTokens_bound`**: a text read under both bounds.
-/

namespace StringCalculator

variable {b b' : Number}

/-! ## One number -/

/-- The number, if its magnitude is no larger than the bound, else zero. -/
def Number.upTo (n bound : Number) : Number := if n.toInt.natAbs ≤ bound.toInt then n else 0

theorem Number.toInt_upTo (n bound : Number) :
    (n.upTo bound).toInt = if n.toInt.natAbs ≤ bound.toInt then n.toInt else 0 := by
  unfold upTo
  split <;> rfl

@[simp] theorem Number.zero_upTo (bound : Number) : Number.upTo 0 bound = 0 := by
  unfold upTo
  split <;> rfl

/-- **A smaller bound cuts off more.** What counts of a reading under the larger bound tells what counts
    under the smaller one. -/
theorem Reading.number_eq_upTo (h : b ≤ b') (r : Reading) : r.number b = (r.number b').upTo b := by
  have hle : b.toInt ≤ b'.toInt := Int64.le_iff_toInt_le.1 h
  rw [← Int64.toInt_inj, Number.toInt_upTo, toInt_number_eq, toInt_number_eq]
  by_cases habove : b'.toInt < r.value.natAbs
  · -- cut off by both
    rw [if_pos habove, if_pos (by omega)]
    split <;> rfl
  · rw [if_neg habove]
    by_cases hwithin : (r.value.natAbs : Int) ≤ b.toInt
    · rw [if_neg (by omega), if_pos hwithin]
    · rw [if_pos (by omega), if_neg hwithin]

/-! ## The tokens of a scan -/

namespace Scan

/-- Where a zero is put behind the tokens does not depend on their numbers. -/
theorem withFinalZero_map {f : Number → Number} (h : f 0 = 0) (ts : List (Token Number)) :
    withFinalZero (ts.map (Token.map f)) = (withFinalZero ts).map (Token.map f) := by
  have hlast : (ts.map (Token.map f)).getLast?.any Token.isOperator = ts.getLast?.any Token.isOperator := by
    rw [List.getLast?_map]
    cases ts.getLast? <;> simp
  unfold withFinalZero
  rw [hlast]
  split
  · rw [List.map_append, List.map_singleton, Token.map, h]
  · rfl

theorem tokens_eq_map_upTo (h : b ≤ b') (s : Scan) :
    s.tokens b = (s.tokens b').map (Token.map (·.upTo b)) := by
  unfold tokens
  rw [← withFinalZero_map (f := fun n => n.upTo b) (Number.zero_upTo b), List.map_map]
  congr 2
  funext t
  rw [Function.comp, Token.map_map]
  congr 1
  funext r
  exact r.number_eq_upTo h

end Scan

/-! ## Reading under two bounds -/

/-- **The larger bound tells all.** What is read under the smaller bound is what is read under the larger,
    with zeros in place of the numbers that lie above the smaller. -/
theorem outcome_readTokens_eq_map_upTo (h : b ≤ b') (ds : Delimiters) (t : Text) :
    (readTokens ds b t).outcome
      = (readTokens ds b' t).outcome.map fun (ts, negatives) => (ts.map (Token.map (·.upTo b)), negatives) := by
  rw [outcome_readTokens, outcome_readTokens]
  cases (Scan.ofText ds t).fault? with
  | some fault => rfl
  | none =>
    rw [Scan.tokens_eq_map_upTo h]
    rfl

/-- **A bound only makes zeros.** Under two bounds, negative ones included, a text has the same fault, or it
    is read under both with the same negative values. Then the tokens differ in their numbers alone: under the
    smaller bound each number is the one under the larger if its magnitude is no larger than the smaller bound,
    and zero otherwise. -/
theorem readTokens_bound (h : b ≤ b') (ds : Delimiters) (t : Text) :
    (∃ e, (readTokens ds b t).outcome = .error e ∧ (readTokens ds b' t).outcome = .error e)
    ∨ ∃ ts ts' negatives, (readTokens ds b t).outcome = .ok (ts, negatives)
      ∧ (readTokens ds b' t).outcome = .ok (ts', negatives)
      ∧ ts = ts'.map (Token.map fun n => if n.toInt.natAbs ≤ b.toInt then n else 0) := by
  have hsmaller := outcome_readTokens_eq_map_upTo h ds t
  cases hlarger : (readTokens ds b' t).outcome with
  | error e =>
    rw [hlarger] at hsmaller
    exact .inl ⟨e, hsmaller, rfl⟩
  | ok read =>
    rw [hlarger] at hsmaller
    exact .inr ⟨_, read.1, read.2, hsmaller, rfl, rfl⟩

/-- A magnitude on the smaller bound, one between the two, one out of range and a word, and the zero behind
    the last operator. The value that the smaller bound cuts off is told under both. -/
theorem readTokens_bound_between :
    (7 : Number) ≤ 10
    ∧ (readTokens .standard 10 "7*(-8-x)+99999999999999999999-".toList).outcome
      = .ok ([.operand 7, .operator .mul, .lparen, .operand (-8), .operator .sub, .operand 0, .rparen,
          .operator .add, .operand 0, .operator .sub, .operand 0], [-8])
    ∧ (readTokens .standard 7 "7*(-8-x)+99999999999999999999-".toList).outcome
      = .ok ([.operand 7, .operator .mul, .lparen, .operand 0, .operator .sub, .operand 0, .rparen,
          .operator .add, .operand 0, .operator .sub, .operand 0], [-8]) := by
  have hle : (7 : Number) ≤ 10 := by decide
  have hlarger : (readTokens .standard 10 "7*(-8-x)+99999999999999999999-".toList).outcome
      = .ok ([.operand 7, .operator .mul, .lparen, .operand (-8), .operator .sub, .operand 0, .rparen,
          .operator .add, .operand 0, .operator .sub, .operand 0], [-8]) := by decide +kernel
  refine ⟨hle, hlarger, ?_⟩
  rcases readTokens_bound hle .standard "7*(-8-x)+99999999999999999999-".toList with
    ⟨e, -, herror⟩ | ⟨ts, ts', negatives, hsmaller, hread, rfl⟩
  · rw [hlarger] at herror
    cases herror
  · rw [hlarger] at hread
    cases hread
    exact hsmaller

end StringCalculator
