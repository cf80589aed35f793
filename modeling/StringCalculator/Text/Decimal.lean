import StringCalculator.Text.Basic

/-!
# `StringCalculator.Text.Decimal` — integers in decimal

A numeral is a run of ASCII digits; leading zeros are allowed when it is read and never written.
A negative integer is written with one minus in front.

## Contents
- **Writing**: `ofNat`, `ofInt`.
- **Reading**: `isNumeral`, `toNat`, and `toInt?`, which also takes a sign.
-/

namespace StringCalculator.Decimal

/-! ## Writing -/

/-- The digits of a natural number. -/
def ofNat (n : Nat) : Text := Nat.toDigits 10 n

/-- The digits of an integer, behind a minus if it is negative. -/
def ofInt : Int → Text
  | .ofNat n => ofNat n
  | .negSucc n => '-' :: ofNat (n + 1)

/-! ## Reading -/

/-- All characters are ASCII digits. -/
def isNumeral (t : Text) : Bool := t.all Char.isDigit

/-- The value of a numeral. -/
def toNat (t : Text) : Nat := Nat.ofDigitChars 10 t 0

/-- The value of a non-empty numeral. -/
def toNat? (t : Text) : Option Nat :=
  if t ≠ [] ∧ isNumeral t then some (toNat t) else none

/-- The value of a non-empty numeral behind at most one sign. -/
def toInt? : Text → Option Int
  | '-' :: t => (toNat? t).map fun n => -(n : Int)
  | '+' :: t => (toNat? t).map Int.ofNat
  | t => (toNat? t).map Int.ofNat

/-! ## What is written reads back -/

theorem isNumeral_ofNat (n : Nat) : isNumeral (ofNat n) := by
  simpa [isNumeral, ofNat] using fun c h => Nat.isDigit_of_mem_toDigits (by decide) (by decide) h

@[simp] theorem toNat_ofNat (n : Nat) : toNat (ofNat n) = n :=
  Nat.ofDigitChars_toDigits (by decide) (by decide)

theorem ofNat_ne_nil (n : Nat) : ofNat n ≠ [] := Nat.toDigits_ne_nil

@[simp] theorem toNat?_ofNat (n : Nat) : toNat? (ofNat n) = some n := by
  simp [toNat?, ofNat_ne_nil, isNumeral_ofNat]

/-- A numeral is read without a sign. -/
theorem toInt?_of_isNumeral {t : Text} (h : isNumeral t) : toInt? t = (toNat? t).map Int.ofNat := by
  unfold toInt?
  split
  · simp [isNumeral] at h
  · simp [isNumeral] at h
  · exact .refl _

@[simp] theorem toInt?_ofInt (z : Int) : toInt? (ofInt z) = some z := by
  cases z with
  | ofNat n => rw [ofInt, toInt?_of_isNumeral (isNumeral_ofNat n), toNat?_ofNat, Option.map_some]
  | negSucc n =>
    rw [ofInt, toInt?, toNat?_ofNat]
    rfl

/-- Nothing but digits and a minus is written. -/
theorem mem_ofInt {z : Int} {c : Char} (h : c ∈ ofInt z) : c = '-' ∨ c.isDigit := by
  have hdigit {n : Nat} (hc : c ∈ ofNat n) : c.isDigit :=
    List.all_eq_true.1 (isNumeral_ofNat n) c hc
  cases z with
  | ofNat n => exact .inr (hdigit h)
  | negSucc n =>
    rcases List.mem_cons.1 h with hc | hc
    · exact .inl hc
    · exact .inr (hdigit hc)

end StringCalculator.Decimal
