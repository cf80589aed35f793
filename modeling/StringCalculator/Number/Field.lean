import StringCalculator.Number
import StringCalculator.Number.Rounding

/-!
# `StringCalculator.Number.Field` — fields in which a number is set

A field on the screen is for numbers from zero to a largest one. Its number may also be set from
elsewhere, so at every frame the field looks at the number and leaves it or another one in place.

A field may be expected to bring every number into its range (`NumberField.Clamps`), or at least to
leave the numbers in its range alone (`NumberField.Keeps`). The one in use, `NumberField.rounding`,
compares two numbers only as far as its precision goes. So a number may lie above the largest one as
long as both round to the same; and where the field takes a number down, it takes it to the rounded
largest one.

## Contents
- **`NumberField`**, with `Clamps` and `Keeps`; **`NumberField.rounding`**, the field in use.
- **`keeps_rounding`**: a number in the range is left alone.
- **`rounding_rounding`**: a number that the field has left in place stays there.
- **`clamps_rounding`**: below the precision of the field, the range is exact.
-/

namespace StringCalculator

/-- A field for numbers from zero to a largest one: the number that it leaves in place of a given
    one. -/
abbrev NumberField := (largest n : Number) → Number

namespace NumberField

/-- With this largest number, the field brings every number into its range, to the nearest one. -/
def Clamps (field : NumberField) (largest : Number) : Prop :=
  ∀ n, (field largest n).toInt = max 0 (min n.toInt largest.toInt)

/-- With this largest number, the field leaves the numbers in its range alone. -/
def Keeps (field : NumberField) (largest : Number) : Prop :=
  ∀ n, 0 ≤ n → n ≤ largest → field largest n = n

/-! ## The field in use -/

/-- The number of significant binary digits of the field. -/
def precision : Nat := 53

/-- A number that is not negative, as far as the field can tell it from others. -/
def rounded (n : Number) : Nat := Rounding.toDigits precision n.toInt.toNat

/-- The number that the field leaves in place: zero for a negative one, the rounded largest one for
    one that is larger in the field, and else the number itself, digit for digit. -/
def rounding : NumberField := fun largest n =>
  if n < 0 then 0
  else if rounded largest < rounded n then Int64.ofNat (rounded largest)
  else n

/-! ## A number as the field sees it -/

theorem rounded_le (n : Number) : rounded n ≤ Rounding.weight 63 := by
  have top : Rounding.weight 63 = 2 ^ 63 := rfl
  have below := n.toInt_lt
  exact Rounding.toDigits_le_weight (by omega)

/-- The field tells numbers with no more digits than it has apart. -/
theorem rounded_of_lt {n : Number} (h : n.toInt < Rounding.weight precision) :
    rounded n = n.toInt.toNat := by
  have positive := Rounding.weight_pos precision
  exact Rounding.toDigits_of_lt (by omega)

theorem le_rounded {n : Number} (h : Rounding.weight precision ≤ n.toInt) :
    Rounding.weight precision ≤ rounded n :=
  Rounding.weight_le_toDigits (by decide) (by omega)

/-- What the field sees is in the order of the numbers. -/
theorem rounded_mono {m n : Number} (h : m ≤ n) : rounded m ≤ rounded n := by
  rw [Int64.le_iff_toInt_le] at h
  exact Rounding.toDigits_mono (by decide) (by omega)

/-- The field sees a rounded number as it is, as long as it is a number too. -/
theorem rounded_ofNat_rounded {n : Number} (h : rounded n < Rounding.weight 63) :
    rounded (Int64.ofNat (rounded n)) = rounded n := by
  rw [rounded, Int64.toInt_ofNat_of_lt h, Int.toNat_natCast]
  exact Rounding.toDigits_toDigits (by decide) n.toInt.toNat

/-! ## The number left in place -/

/-- A number that the field can tell to be neither negative nor too large is left as it is. -/
theorem rounding_of_mem {largest n : Number} (low : ¬n < 0) (high : rounded n ≤ rounded largest) :
    rounding largest n = n := by
  rw [rounding, if_neg low, if_neg (Nat.not_lt.2 high)]

/-- **A number in the range is left alone**, whatever the largest number. -/
theorem keeps_rounding (largest : Number) : rounding.Keeps largest := fun _ low high =>
  rounding_of_mem (Int64.not_lt.2 low) (rounded_mono high)

theorem rounding_not_neg (largest n : Number) : ¬rounding largest n < 0 := by
  unfold rounding
  split
  · decide
  · split
    · rename_i above
      have small := Nat.lt_of_lt_of_le above (rounded_le n)
      rw [Int64.lt_iff_toInt_lt, Int64.toInt_ofNat_of_lt small]
      exact Int.not_lt.2 (Int.natCast_nonneg _)
    · assumption

theorem rounded_rounding_le (largest n : Number) : rounded (rounding largest n) ≤ rounded largest := by
  unfold rounding
  split
  · have zero : rounded 0 = 0 := Rounding.toDigits_zero precision
    rw [zero]
    exact Nat.zero_le _
  · split
    · rename_i above
      have small := Nat.lt_of_lt_of_le above (rounded_le n)
      exact Nat.le_of_eq (rounded_ofNat_rounded small)
    · rename_i above
      exact Nat.not_lt.1 above

/-- **The field settles.** A number that the field has left in place stays there. -/
theorem rounding_rounding (largest n : Number) :
    rounding largest (rounding largest n) = rounding largest n :=
  rounding_of_mem (rounding_not_neg largest n) (rounded_rounding_le largest n)

/-- **Exactness.** As long as the largest number has no more digits than the field, the field brings
    every number into the range. -/
theorem clamps_rounding {largest : Number} (h : largest.toInt < Rounding.weight precision) :
    rounding.Clamps largest := by
  intro n
  have limit : Rounding.weight precision = 2 ^ 53 := rfl
  have zero : (0 : Number).toInt = 0 := by decide
  have top := rounded_of_lt h
  unfold rounding
  simp only [Int64.lt_iff_toInt_lt, zero]
  split
  · omega
  · have above : rounded largest < rounded n ↔ largest.toInt.toNat < n.toInt := by
      by_cases few : n.toInt < Rounding.weight precision
      · have := rounded_of_lt few
        omega
      · have := le_rounded (Int.not_lt.1 few)
        omega
    have value : (Int64.ofNat (rounded largest)).toInt = largest.toInt.toNat := by
      rw [top, Int64.toInt_ofNat_of_lt (by omega)]
    split <;> omega

/-- Beyond that it does not: the next number after the first one with more digits is let be. -/
example : rounding 9007199254740992 9007199254740993 = 9007199254740993 := by decide +kernel

end NumberField

end StringCalculator
