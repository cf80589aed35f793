/-!
# `StringCalculator.Number.Rounding` — natural numbers with few binary digits

A number with many binary digits is rounded to the nearest one that has only so many significant
digits, the rest of them being zero. Halfway between two such numbers the even one is taken.

## Contents
- **`toMultiple`**: rounding to the multiples of a unit.
- **`weight`**: the weight of a binary digit.
- **`toDigits`**: rounding to a number of significant binary digits, with **`toDigits_mono`**: it keeps
  the order, and **`toDigits_toDigits`**: what has been rounded stays as it is.
-/

namespace StringCalculator.Rounding

/-! ## To the multiples of a unit -/

/-- The nearest multiple of the unit; of two that are equally near, the even multiple. -/
def toMultiple (unit n : Nat) : Nat :=
  if 2 * (n % unit) < unit ∨ (2 * (n % unit) = unit ∧ n / unit % 2 = 0) then
    n / unit * unit
  else
    (n / unit + 1) * unit

theorem dvd_toMultiple (unit n : Nat) : unit ∣ toMultiple unit n := by
  unfold toMultiple
  split <;> exact Nat.dvd_mul_left _ _

/-- A multiple of the unit is its own nearest one. -/
theorem toMultiple_of_dvd {unit n : Nat} (pos : 0 < unit) (h : unit ∣ n) :
    toMultiple unit n = n := by
  have rest : n % unit = 0 := Nat.mod_eq_zero_of_dvd h
  rw [toMultiple, if_pos (Or.inl (by omega)), Nat.div_mul_cancel h]

/-- Rounding does not pass a multiple of the unit that lies below. -/
theorem le_toMultiple {unit n k : Nat} (h : unit ∣ k) (le : k ≤ n) : k ≤ toMultiple unit n := by
  have floor : k ≤ n / unit * unit := by
    rw [← Nat.div_mul_cancel h]
    exact Nat.mul_le_mul_right unit (Nat.div_le_div_right le)
  unfold toMultiple
  split
  · exact floor
  · exact Nat.le_trans floor (Nat.mul_le_mul_right unit (Nat.le_succ _))

/-- Rounding does not pass a multiple of the unit that lies above. -/
theorem toMultiple_le {unit n k : Nat} (h : unit ∣ k) (lt : n < k) : toMultiple unit n ≤ k := by
  have ceiling : (n / unit + 1) * unit ≤ k := by
    obtain ⟨j, rfl⟩ := h
    rw [Nat.mul_comm unit j] at lt ⊢
    exact Nat.mul_le_mul_right unit (Nat.div_lt_of_lt_mul (Nat.mul_comm j unit ▸ lt))
  unfold toMultiple
  split
  · exact Nat.le_trans (Nat.mul_le_mul_right unit (Nat.le_succ _)) ceiling
  · exact ceiling

/-- Rounding keeps the order. -/
theorem toMultiple_mono {unit m n : Nat} (pos : 0 < unit) (le : m ≤ n) :
    toMultiple unit m ≤ toMultiple unit n := by
  have floor : m / unit ≤ n / unit := Nat.div_le_div_right le
  rcases Nat.lt_or_eq_of_le floor with apart | same
  · -- there is a multiple of the unit between the two
    have low : m < n / unit * unit := (Nat.div_lt_iff_lt_mul pos).1 apart
    exact Nat.le_trans (toMultiple_le (Nat.dvd_mul_left _ _) low)
      (le_toMultiple (Nat.dvd_mul_left _ _) (Nat.div_mul_le_self n unit))
  · -- the rest decides, and it is larger for the larger number
    have rest : m % unit ≤ n % unit := by
      have divided := Nat.div_add_mod m unit
      have divided' := Nat.div_add_mod n unit
      rw [same] at divided
      omega
    have ceiling : n / unit * unit ≤ (n / unit + 1) * unit :=
      Nat.mul_le_mul_right unit (Nat.le_succ _)
    unfold toMultiple
    rw [same]
    split <;> split <;> omega

/-! ## To significant binary digits -/

/-- The weight of a binary digit, the power of two of its place. -/
def weight (place : Nat) : Nat := Nat.pow 2 place

theorem weight_pos (place : Nat) : 0 < weight place := Nat.two_pow_pos place

theorem weight_le_weight {j k : Nat} (h : j ≤ k) : weight j ≤ weight k :=
  Nat.pow_le_pow_right (by decide) h

theorem weight_dvd_weight {j k : Nat} (h : j ≤ k) : weight j ∣ weight k := Nat.pow_dvd_pow 2 h

/-- The weight of the last of so many significant binary digits. -/
def lastPlace (digits n : Nat) : Nat := weight (n.log2 + 1 - digits)

/-- The nearest number with so many significant binary digits. -/
def toDigits (digits n : Nat) : Nat := toMultiple (lastPlace digits n) n

theorem lastPlace_pos (digits n : Nat) : 0 < lastPlace digits n := weight_pos _

/-- A number that ends at its last place is not changed. -/
theorem toDigits_of_dvd {digits n : Nat} (h : lastPlace digits n ∣ n) : toDigits digits n = n :=
  toMultiple_of_dvd (lastPlace_pos digits n) h

@[simp] theorem toDigits_zero (digits : Nat) : toDigits digits 0 = 0 :=
  toDigits_of_dvd (Nat.dvd_zero _)

/-- A number with no more digits than asked for is not changed. -/
theorem toDigits_of_lt {digits n : Nat} (h : n < weight digits) : toDigits digits n = n := by
  by_cases zero : n = 0
  · rw [zero, toDigits_zero]
  · have few : n.log2 + 1 ≤ digits := (Nat.log2_lt zero).2 h
    have place : lastPlace digits n = 1 := by
      rw [lastPlace, Nat.sub_eq_zero_of_le few]
      rfl
    exact toDigits_of_dvd (place ▸ Nat.one_dvd n)

/-- Rounding does not pass a power of two that lies below. -/
theorem weight_le_toDigits {digits n k : Nat} (pos : 0 < digits) (le : weight k ≤ n) :
    weight k ≤ toDigits digits n := by
  have nonzero : n ≠ 0 := Nat.ne_of_gt (Nat.lt_of_lt_of_le (weight_pos k) le)
  have first : weight n.log2 ≤ toDigits digits n :=
    le_toMultiple (weight_dvd_weight (by omega)) (Nat.log2_self_le nonzero)
  exact Nat.le_trans (weight_le_weight ((Nat.le_log2 nonzero).2 le)) first

/-- Rounding does not pass a power of two that lies above. -/
theorem toDigits_le_weight {digits n k : Nat} (lt : n < weight k) : toDigits digits n ≤ weight k := by
  by_cases zero : n = 0
  · rw [zero, toDigits_zero]
    exact Nat.zero_le _
  · have next : toDigits digits n ≤ weight (n.log2 + 1) :=
      toMultiple_le (weight_dvd_weight (Nat.sub_le _ _)) Nat.lt_log2_self
    exact Nat.le_trans next (weight_le_weight ((Nat.log2_lt zero).2 lt))

/-- **Rounding keeps the order.** -/
theorem toDigits_mono {digits m n : Nat} (pos : 0 < digits) (le : m ≤ n) :
    toDigits digits m ≤ toDigits digits n := by
  by_cases zero : m = 0
  · rw [zero, toDigits_zero]
    exact Nat.zero_le _
  · have low : weight m.log2 ≤ n := Nat.le_trans (Nat.log2_self_le zero) le
    have nonzero : n ≠ 0 := Nat.ne_of_gt (Nat.lt_of_lt_of_le (weight_pos _) low)
    by_cases high : n < weight (m.log2 + 1)
    · -- both have the same digits
      have place : lastPlace digits n = lastPlace digits m := by
        rw [lastPlace, lastPlace, (Nat.log2_eq_iff nonzero).2 ⟨low, high⟩]
      rw [toDigits, toDigits, place]
      exact toMultiple_mono (lastPlace_pos digits m) le
    · -- a power of two lies between them
      exact Nat.le_trans (toDigits_le_weight Nat.lt_log2_self)
        (weight_le_toDigits pos (Nat.not_lt.1 high))

/-- **Rounding settles.** What has been rounded stays as it is. -/
theorem toDigits_toDigits {digits : Nat} (pos : 0 < digits) (n : Nat) :
    toDigits digits (toDigits digits n) = toDigits digits n := by
  by_cases zero : n = 0
  · rw [zero, toDigits_zero, toDigits_zero]
  have low : weight n.log2 ≤ toDigits digits n := weight_le_toDigits pos (Nat.log2_self_le zero)
  have high : toDigits digits n ≤ weight (n.log2 + 1) := toDigits_le_weight Nat.lt_log2_self
  have multiple : lastPlace digits n ∣ toDigits digits n := dvd_toMultiple _ n
  apply toDigits_of_dvd
  rcases Nat.lt_or_eq_of_le high with below | carried
  · have nonzero := Nat.ne_of_gt (Nat.lt_of_lt_of_le (weight_pos _) low)
    rw [lastPlace, (Nat.log2_eq_iff nonzero).2 ⟨low, below⟩]
    exact multiple
  · have log : (weight (n.log2 + 1)).log2 = n.log2 + 1 := Nat.log2_two_pow
    rw [carried, lastPlace, log]
    exact weight_dvd_weight (by omega)

end StringCalculator.Rounding
