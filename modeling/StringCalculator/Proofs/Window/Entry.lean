import StringCalculator.Window

/-!
# `StringCalculator.Proofs.Window.Entry` — the entry and the keyboard over a run

What a step makes of the entry depends on the step and the entry alone, not on the settings, the outputs or
the field of the bound. It is told here as a function of the two (`Step.edit`), so the entry after a run is
the entry at the start with the edits of the steps carried out in order (`entry_run`). Neither an evaluation
nor a frame at rest edits anything.

Enter is meant for the entry field, so it matters who has the keyboard. The two switches take it away from
the entry field, and everything else that a user does leaves it there or gives it back (`focused_receive`).

## Contents
- **`Step.edit`**: what a step makes of the entry.
- **`entry_step`**, **`entry_run`**: the entry after a step, and after a run.
- **`focused_receive`**: who has the keyboard after an input.
-/

namespace StringCalculator

/-! ## The entry -/

/-- What a step makes of the entry. It is set, emptied, or edited by a key or a deletion; nothing else touches
    it. -/
def Step.edit : Step → Text → Text
  | .assign (.entry t), _ => t
  | .reset, _ | .clearEntry, _ => []
  | .input (.click .reset), _ | .input (.click .clearEntry), _ | .input .escape, _ => []
  | .input (.click (.key k)), entry => k.write entry
  | .input (.click .delete), entry => deleteSymbol entry
  | _, entry => entry

theorem Calculator.entry_evaluate (c : Calculator) : c.evaluate.entry = c.entry := by rw [evaluate_eq]

namespace Window

variable (field : NumberField)

/-- **A step edits the entry**, in whatever state the window is. -/
theorem entry_step (w : Window) (s : Step) :
    (w.step s field).calculator.entry = s.edit w.calculator.entry := by
  cases s with
  | assign a => cases a <;> rfl
  | input i =>
    cases i with
    | click b =>
      cases b with
      | evaluate => exact (w.rest field).calculator.entry_evaluate
      | _ => rfl
    | enter =>
      show ((w.rest field).handle .enter).calculator.entry = w.calculator.entry
      rw [handle]
      split
      · exact (w.rest field).calculator.entry_evaluate
      · rfl
    | _ => rfl
  | _ => rfl

/-- **The entry after a run** is made by the edits of its steps in order. -/
theorem entry_run (w : Window) (steps : List Step) :
    (w.run steps field).calculator.entry = steps.foldl (fun entry s => s.edit entry) w.calculator.entry := by
  induction steps generalizing w with
  | nil => rfl
  | cons s steps ih =>
    rw [List.foldl_cons, ← entry_step field]
    exact ih (w.step s field)

/-! ## The keyboard -/

/-- **Who has the keyboard after an input.** A click on a button and the escape key give it to the entry field,
    the two switches take it away; the enter key leaves it there if the entry field had it or was to get it. -/
theorem focused_receive (w : Window) (i : Input) :
    (w.receive i field).focused =
      match i with
      | .click _ | .escape => true
      | .toggleNegatives | .toggleTrace => false
      | .enter => w.focused || w.calculator.wantsFocus := by
  cases i with
  | click b =>
    show ((w.rest field).focused || ((w.rest field).calculator.press b).wantsFocus) = true
    rw [Calculator.wantsFocus_press, Bool.or_true]
  | enter =>
    have hrest : (w.rest field).focused = (w.focused || w.calculator.wantsFocus) := rfl
    rw [receive, handle, ← hrest]
    split
    · rename_i hfocused
      show ((w.rest field).focused || _) = _
      rw [hfocused, Bool.true_or]
    · -- the frame before the key has met the wish for the keyboard
      exact Bool.or_false _
  | escape => exact Bool.or_true _
  | _ => rfl

end Window

end StringCalculator
