import StringCalculator.Calculator.Keypad
import StringCalculator.Number.Field

/-!
# `StringCalculator.Window` — the window over time

The window shows a calculator, and its entry field may have the keyboard. Events reach it between
frames. A frame at rest does two things: the field of the bound looks at its number, and the entry
field takes the keyboard if the calculator wants that. An event comes after a frame at rest and is
followed by one.

What the field of the bound does is left open: every definition here that draws frames takes the field
as its last argument, which is the one in use unless another is given.

## Contents
- **`Window`**, with `rest`, a frame at rest.
- **`Input`, `Window.receive`**: what a user does, and what comes of it.
- **`Assignment`, `Calculator.assign`**: setting one part of the state directly.
- **`Step`, `Window.step`, `Window.run`**: any course of these.
-/

namespace StringCalculator

/-- A calculator on the screen. -/
structure Window where
  calculator : Calculator
  /-- The entry field has the keyboard. -/
  focused : Bool := false
  deriving DecidableEq

/-! ## What a user does -/

/-- What a user does. -/
inductive Input where
  | click (b : Button)
  /-- Clicks the box that allows negative numbers. -/
  | toggleNegatives
  /-- Opens or closes the panel with the trace. -/
  | toggleTrace
  | enter
  | escape
  deriving DecidableEq, Repr

namespace Window

/-- The window of a calculator that has just started. -/
def ofPolicy (p : Policy) : Window := ⟨.ofPolicy p, false⟩

/-- A frame at rest. -/
def rest (w : Window) (field : NumberField := .rounding) : Window where
  calculator :=
    { w.calculator with
      bound := field w.calculator.maxBound w.calculator.bound
      wantsFocus := false }
  focused := w.focused || w.calculator.wantsFocus

/-- The window with the calculator changed. -/
def update (f : Calculator → Calculator) (w : Window) : Window :=
  { w with calculator := f w.calculator }

/-- What comes of an input at once. The two switches take the keyboard away from the entry field;
    the enter key is meant for the entry field alone. -/
def handle (w : Window) : Input → Window
  | .click b => w.update (·.press b)
  | .toggleNegatives =>
    { calculator := { w.calculator with allowsNegatives := !w.calculator.allowsNegatives }
      focused := false }
  | .toggleTrace => { w with focused := false }
  | .enter => if w.focused then w.update Calculator.evaluate else w
  | .escape => w.update Calculator.clearEntry

/-- An input between two frames at rest. -/
def receive (w : Window) (i : Input) (field : NumberField := .rounding) : Window :=
  ((w.rest field).handle i).rest field

end Window

/-! ## Changes without a frame -/

/-- A part of the state with a value for it. -/
inductive Assignment where
  | entry (t : Text)
  | extraDelimiter (t : Text)
  | bound (n : Number)
  | allowsNegatives (b : Bool)
  deriving DecidableEq, Repr

/-- The calculator with that part set. -/
def Calculator.assign (c : Calculator) : Assignment → Calculator
  | .entry t => { c with entry := t }
  | .extraDelimiter t => { c with extraDelimiter := t }
  | .bound n => { c with bound := n }
  | .allowsNegatives b => { c with allowsNegatives := b }

/-! ## Courses -/

/-- Anything that can happen to a window. -/
inductive Step where
  | assign (a : Assignment)
  | reset | clearEntry | clearOutputs
  | showError (message : Text)
  | showCalculation (found : Calculation)
  /-- A frame at rest. -/
  | frame
  | input (i : Input)
  deriving DecidableEq, Repr

namespace Window

/-- The window after a step. -/
def step (w : Window) (s : Step) (field : NumberField := .rounding) : Window :=
  match s with
  | .assign a => w.update (·.assign a)
  | .reset => w.update Calculator.reset
  | .clearEntry => w.update Calculator.clearEntry
  | .clearOutputs => w.update Calculator.clearOutputs
  | .showError message => w.update (·.showError message)
  | .showCalculation found => w.update (·.showCalculation found)
  | .frame => w.rest field
  | .input i => w.receive i field

/-- The window after a course of steps. -/
def run (w : Window) (steps : List Step) (field : NumberField := .rounding) : Window :=
  steps.foldl (fun w s => w.step s field) w

/-- A frame at rest leaves nothing for another one to do. -/
theorem rest_rest (w : Window) : w.rest.rest = w.rest := by
  have top : w.rest.calculator.maxBound = w.calculator.maxBound := rfl
  have settled := NumberField.rounding_rounding w.calculator.maxBound w.calculator.bound
  rw [rest, top]
  simp [rest, settled]

end Window

end StringCalculator
