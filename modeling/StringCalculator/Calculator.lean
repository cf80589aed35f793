import StringCalculator.Calculation
import StringCalculator.Text.Typed

/-!
# `StringCalculator.Calculator` — the state behind the window

The calculator holds an entry, the outputs of the latest calculations and settings that start from
a given policy. Whatever an action does, it leaves the starting policy alone, so that the settings
can always be taken back.

## Contents
- **`Calculator`**, with `ofPolicy`, its state at the start.
- **`Calculator.policy`**: the policy in force, made of the starting one and the settings.
- **Actions**: `clearEntry`, `clearOutputs`, `reset`, `showError`, `showCalculation`, `evaluate`.
-/

namespace StringCalculator

/-- The state behind the window. -/
structure Calculator where
  /-- The policy that the settings start from. -/
  start : Policy
  entry : Text := []
  /-- The value of the latest calculation that succeeded. -/
  result : Text := []
  formula : Text := []
  /-- The error of the latest calculation, if it failed. -/
  error : Text := []
  trace : Trace := {}
  allowsNegatives : Bool
  bound : Number
  /-- A delimiter to be used in front of the others; none if empty. -/
  extraDelimiter : Text := []
  /-- The entry field is to take the keyboard at the next frame. -/
  wantsFocus : Bool := true
  deriving DecidableEq

namespace Calculator

/-- The largest bound that can be set, unless the starting policy has a larger one. -/
def customaryBound : Number := 1000000000

/-- The state at the start under a policy. -/
def ofPolicy (p : Policy) : Calculator where
  start := p
  allowsNegatives := !p.refusesNegatives
  bound := p.bound

/-! ## Settings -/

/-- The largest bound that can be set. -/
def maxBound (c : Calculator) : Number :=
  if customaryBound < c.start.bound then c.start.bound else customaryBound

/-- The bound, brought into the range from zero to the largest one. -/
def clampedBound (c : Calculator) : Number :=
  if c.bound < 0 then 0 else if c.maxBound < c.bound then c.maxBound else c.bound

theorem toInt_maxBound (c : Calculator) :
    c.maxBound.toInt = max 1000000000 c.start.bound.toInt := by
  have customary : customaryBound.toInt = 1000000000 := by decide
  unfold maxBound
  split <;> rename_i h <;> rw [Int64.lt_iff_toInt_lt, customary] at h <;> omega

/-- **The range.** Clamping yields the nearest number from zero to the largest bound. -/
theorem toInt_clampedBound (c : Calculator) :
    c.clampedBound.toInt = max 0 (min c.bound.toInt c.maxBound.toInt) := by
  have zero : (0 : Number).toInt = 0 := by decide
  have top := c.toInt_maxBound
  unfold clampedBound
  simp only [Int64.lt_iff_toInt_lt, zero]
  split
  · omega
  · split <;> omega

/-- The policy in force. -/
def policy (c : Calculator) : Policy :=
  let p : Policy :=
    { c.start with refusesNegatives := !c.allowsNegatives, bound := c.clampedBound }
  match Delimiters.ofList [Typed.decode c.extraDelimiter] with
  | .ok extra => p.withDelimiters extra
  | .error _ => p

/-! ## Actions -/

/-- Takes everything back to the start. -/
def reset (c : Calculator) : Calculator := ofPolicy c.start

/-- Empties the entry. -/
def clearEntry (c : Calculator) : Calculator := { c with entry := [], wantsFocus := true }

/-- Empties all outputs. -/
def clearOutputs (c : Calculator) : Calculator :=
  { c with result := [], formula := [], error := [], trace := {}, wantsFocus := true }

/-- Shows an error; the latest result stays, its trace does not. -/
def showError (c : Calculator) (message : Text) : Calculator :=
  { c with error := message, trace := {}, wantsFocus := true }

/-- Shows what a calculation has found. -/
def showCalculation (c : Calculator) (found : Calculation) : Calculator :=
  { c with
    error := []
    result := found.value.text
    formula := found.formula
    trace := found.trace
    wantsFocus := true }

/-- Calculates the entry under the policy in force and shows the outcome. -/
def evaluate (c : Calculator) : Calculator :=
  match (calculate c.policy (Typed.decode c.entry)).outcome with
  | .ok found => c.showCalculation found
  | .error e => c.showError e.message

/-- **An evaluation writes the outputs**, and nothing else but the wish for the keyboard. -/
theorem evaluate_eq (c : Calculator) :
    c.evaluate =
      { c with
        result := c.evaluate.result
        formula := c.evaluate.formula
        error := c.evaluate.error
        trace := c.evaluate.trace
        wantsFocus := true } := by
  unfold evaluate
  split <;> rfl

end Calculator

end StringCalculator
