import StringCalculator.Text.Decimal

/-!
# `StringCalculator.Number` — the numbers of a calculation

Numbers are 64-bit signed integers. An exact integer becomes a number only inside their range;
nothing wraps around.

## Contents
- **`Number.ofInt?`**, with `ofInt?_eq_some_iff`: it yields the number that has the given value.
- **`Number.text`**: the decimal text; **`Number.ofText?`** reads one.
-/

namespace StringCalculator

/-- A 64-bit signed integer. -/
abbrev Number := Int64

namespace Number

/-- The number of that value, if the value is in range. -/
def ofInt? (z : Int) : Option Number :=
  if Int64.minValue.toInt ≤ z ∧ z ≤ Int64.maxValue.toInt then some (Int64.ofInt z) else none

/-- The decimal text of a number. -/
def text (n : Number) : Text := Decimal.ofInt n.toInt

/-- The number that a decimal text stands for: an integer, perhaps with a sign, in the range of
    numbers. -/
def ofText? (t : Text) : Option Number := Decimal.toInt? t >>= ofInt?

/-- **Exactness.** The number found has the value asked for, and each value of a number is found. -/
theorem ofInt?_eq_some_iff {z : Int} {n : Number} : ofInt? z = some n ↔ n.toInt = z := by
  constructor
  · intro h
    simp only [ofInt?, Option.ite_none_right_eq_some, Option.some.injEq] at h
    obtain ⟨⟨lo, hi⟩, rfl⟩ := h
    exact Int64.toInt_ofInt_of_le lo (Int.lt_add_one_of_le hi)
  · rintro rfl
    rw [ofInt?, if_pos ⟨Int64.minValue_le_toInt n, Int64.toInt_le n⟩, Int64.ofInt_toInt]

@[simp] theorem ofInt?_toInt (n : Number) : ofInt? n.toInt = some n :=
  ofInt?_eq_some_iff.2 rfl

@[simp] theorem ofText?_text (n : Number) : ofText? n.text = some n := by
  rw [ofText?, text, Decimal.toInt?_ofInt, Option.bind_eq_bind, Option.bind_some, ofInt?_toInt]

/-- The text of a number has nothing but digits and a minus in it. -/
theorem mem_text {n : Number} {c : Char} (h : c ∈ n.text) : c = '-' ∨ c.isDigit :=
  Decimal.mem_ofInt h

/-- It is never empty. -/
theorem text_ne_nil (n : Number) : n.text ≠ [] := by
  intro empty
  have read := n.ofText?_text
  rw [empty] at read
  cases read

end Number

end StringCalculator
