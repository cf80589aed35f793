import Mathlib.Data.List.Induction
import StringCalculator.Window

/-!
# `StringCalculator.Proofs.Window.Outputs` — the outputs of a window follow its history

A window has four outputs, and many steps that write some of them: a result must not be shown with the
formula, the error or the trace of another calculation. What a window shows is told here by its *history*,
in which every step is a turn of one of four kinds: a calculation is deposited, a failure is shown, all
outputs are emptied, or they are let be.

The outputs after a run are those that the turns alone lead to, replayed from nothing (`outputs_run`). The
rest is about lists of turns: what counts is the latest calculation that was deposited and not cleared
away, and what has come since.

## Contents
- **`Window.attempt?`**: the outcome of the evaluation that a step leads to.
- **`Turn`**, **`Window.turn`**, **`Window.history`**: a run as its turns.
- **`Outputs`**, **`Outputs.after`**: the outputs, and what a turn makes of them.
- **`outputs_step`**, **`outputs_run`**: the outputs after a run.
- **`Latest`**: the latest calculation, and the turns since; **`outputs_history`**: what is shown.
-/

namespace StringCalculator

/-! ## Turns -/

/-- What a step means for the outputs. -/
inductive Turn where
  /-- A calculation is deposited. -/
  | deposit (found : Calculation)
  /-- A failure is shown. -/
  | fail (message : Text)
  /-- All outputs are emptied. -/
  | clear
  /-- The outputs are let be. -/
  | keep
  deriving DecidableEq

/-- The turn leaves the result as it is. -/
def Turn.spares : Turn → Bool
  | .deposit _ | .clear => false
  | .fail _ | .keep => true

/-- The turn that an evaluation with this outcome is. -/
def Turn.ofOutcome : Except CalculationError Calculation → Turn
  | .ok found => .deposit found
  | .error e => .fail e.message

/-- The outcome of the entry under the policy in force. -/
def Calculator.outcome (c : Calculator) : Except CalculationError Calculation :=
  (calculate c.policy (Typed.decode c.entry)).outcome

namespace Window

/-- The outcome of the evaluation that a step leads to, if it leads to one. Only two steps do: a click on
    the button for it, and the enter key while the entry field has the keyboard. -/
def attempt? (w : Window) (s : Step) (field : NumberField := .rounding) :
    Option (Except CalculationError Calculation) :=
  match s with
  | .input (.click .evaluate) => some (w.rest field).calculator.outcome
  | .input .enter => if (w.rest field).focused then some (w.rest field).calculator.outcome else none
  | _ => none

/-- The turn that a step is. -/
def turn (w : Window) (s : Step) (field : NumberField := .rounding) : Turn :=
  match w.attempt? s field with
  | some outcome => .ofOutcome outcome
  | none =>
    match s with
    | .showCalculation found => .deposit found
    | .showError message => .fail message
    | .clearOutputs | .reset | .input (.click .clearOutputs) | .input (.click .reset) => .clear
    | _ => .keep

/-- The turns of a run, in order. -/
def history (w : Window) (steps : List Step) (field : NumberField := .rounding) : List Turn :=
  match steps with
  | [] => []
  | s :: steps => w.turn s field :: (w.step s field).history steps field

end Window

/-! ## Outputs -/

/-- What a window shows of its calculations. -/
@[ext] structure Outputs where
  result : Text := []
  formula : Text := []
  error : Text := []
  trace : Trace := {}

/-- What a turn makes of the outputs. -/
def Outputs.after (o : Outputs) : Turn → Outputs
  | .deposit found => { result := found.value.text, formula := found.formula, trace := found.trace }
  | .fail message => { o with error := message, trace := {} }
  | .clear => {}
  | .keep => o

/-- The outputs of a calculator. -/
def Calculator.outputs (c : Calculator) : Outputs := ⟨c.result, c.formula, c.error, c.trace⟩

/-! ## Steps and runs -/

theorem Calculator.outputs_evaluate (c : Calculator) :
    c.evaluate.outputs = c.outputs.after (.ofOutcome c.outcome) := by
  unfold evaluate outcome
  split <;> rename_i h <;> rw [h] <;> rfl

namespace Window

variable (field : NumberField)

/-- **A step does to the outputs what its turn says.** The frames around it do nothing to them. -/
theorem outputs_step (w : Window) (s : Step) :
    (w.step s field).calculator.outputs = w.calculator.outputs.after (w.turn s field) := by
  cases s with
  | assign a => cases a <;> rfl
  | input i =>
    cases i with
    | click b =>
      cases b with
      | evaluate => exact (w.rest field).calculator.outputs_evaluate
      | _ => rfl
    | enter =>
      simp only [step, receive, handle, turn, attempt?]
      by_cases hfocused : (w.rest field).focused
      · rw [if_pos hfocused, if_pos hfocused]
        exact (w.rest field).calculator.outputs_evaluate
      · rw [if_neg hfocused, if_neg hfocused]
        rfl
    | _ => rfl
  | _ => rfl

/-- **The outputs after a run are its history replayed.** -/
theorem outputs_run (w : Window) (steps : List Step) :
    (w.run steps field).calculator.outputs
      = (w.history steps field).foldl Outputs.after w.calculator.outputs := by
  induction steps generalizing w with
  | nil => rfl
  | cons s steps ih =>
    rw [history, List.foldl_cons, ← outputs_step]
    exact ih (w.step s field)

/-! ## Evaluations -/

variable {field} {w : Window} {s : Step}

/-- A step that leads to an evaluation is one, between two frames at rest. -/
theorem step_of_attempt {outcome : Except CalculationError Calculation}
    (h : w.attempt? s field = some outcome) :
    (w.rest field).calculator.outcome = outcome
      ∧ w.step s field = ((w.rest field).update Calculator.evaluate).rest field := by
  unfold attempt? at h
  split at h
  · cases h
    exact ⟨rfl, rfl⟩
  · split at h
    · rename_i hfocused
      cases h
      simp only [step, receive, handle, hfocused, if_true, and_self]
    · cases h
  · cases h

/-- **A failing evaluation** writes the error, empties the trace and gives the keyboard to the entry field.
    The bound is as two frames at rest leave it, and nothing else changes. -/
theorem step_of_attempt_error {e : CalculationError} (h : w.attempt? s field = some (.error e)) :
    w.step s field =
      { calculator :=
          { w.calculator with
            error := e.message
            trace := {}
            bound := ((w.rest field).rest field).calculator.bound
            wantsFocus := false }
        focused := true } := by
  obtain ⟨houtcome, hstep⟩ := step_of_attempt h
  have hfails : (w.rest field).calculator.evaluate
      = (w.rest field).calculator.showError e.message := by
    unfold Calculator.outcome at houtcome
    rw [Calculator.evaluate, houtcome]
  have hfocused : ((w.rest field).focused || true) = true := Bool.or_true _
  rw [hstep, update, hfails]
  exact congrArg (Window.mk _) hfocused

end Window

/-! ## The latest calculation -/

/-- The latest calculation in a list of turns, with the turns since it was deposited: none of them deposits
    another one or empties the outputs. -/
def Latest (turns : List Turn) (found : Calculation) (since : List Turn) : Prop :=
  (∃ before, turns = before ++ .deposit found :: since) ∧ ∀ t ∈ since, t.spares

namespace Outputs

variable {turns since : List Turn} {o : Outputs}

/-- Turns that spare the result spare the formula too; the trace lasts until the first failure. -/
theorem foldl_of_spares (h : ∀ t ∈ since, t.spares) (o : Outputs) :
    (since.foldl after o).result = o.result ∧ (since.foldl after o).formula = o.formula
      ∧ (since.foldl after o).trace = if ∀ t ∈ since, t = .keep then o.trace else {} := by
  induction since generalizing o with
  | nil => simp
  | cons t since ih =>
    obtain ⟨ht, hsince⟩ := List.forall_mem_cons.1 h
    obtain ⟨hresult, hformula, htrace⟩ := ih hsince (o.after t)
    rw [List.foldl_cons, hresult, hformula, htrace]
    cases t with
    | deposit found => cases ht
    | clear => cases ht
    | fail message => simp [after]
    | keep => simp [after]

/-- Where no calculation is the latest one, nothing but an error is shown. -/
theorem foldl_of_not_latest (h : ¬∃ found since, Latest turns found since) :
    (turns.foldl after {}).result = [] ∧ (turns.foldl after {}).formula = []
      ∧ (turns.foldl after {}).trace = {} := by
  induction turns using List.reverseRecOn with
  | nil => exact ⟨rfl, rfl, rfl⟩
  | append_singleton turns t ih =>
    -- a latest calculation would still be it behind a turn that spares it
    have hbefore (ht : t.spares) : ¬∃ found since, Latest turns found since := by
      rintro ⟨found, since, ⟨before, rfl⟩, hsince⟩
      refine h ⟨found, since ++ [t], ⟨before, by simp⟩, ?_⟩
      simpa [or_imp, forall_and] using ⟨hsince, ht⟩
    rw [List.foldl_append, List.foldl_cons, List.foldl_nil]
    cases t with
    | deposit found => exact absurd ⟨found, [], ⟨turns, rfl⟩, by simp⟩ h
    | clear => exact ⟨rfl, rfl, rfl⟩
    | fail message =>
      obtain ⟨hresult, hformula, -⟩ := ih (hbefore rfl)
      exact ⟨hresult, hformula, rfl⟩
    | keep => exact ih (hbefore rfl)

/-- An error and a trace are never shown together. -/
theorem trace_of_error_foldl (h : o.error ≠ [] → o.trace = {}) (turns : List Turn) :
    (turns.foldl after o).error ≠ [] → (turns.foldl after o).trace = {} := by
  induction turns generalizing o with
  | nil => exact h
  | cons t turns ih =>
    apply ih
    cases t with
    | deposit found => exact fun hne => absurd rfl hne
    | clear => exact fun _ => rfl
    | fail message => exact fun _ => rfl
    | keep => exact h

end Outputs

/-! ## What is shown after a run -/

/-- **The outputs follow the history.** After any run from the start, under any policy and with any field
    for the bound:

    * result and formula are those of the latest calculation; the trace is its trace too, until anything
      else is shown, and then it is empty;
    * all three are empty if no calculation has been deposited since the outputs were last emptied;
    * an error is never shown together with a trace;
    * an evaluation that fails next changes nothing but the error, the trace and the keyboard, and the
      bound as far as frames at rest do. -/
theorem Window.outputs_history (field : NumberField) (p : Policy) (steps : List Step) :
    let w := (ofPolicy p).run steps field
    let c := w.calculator
    let turns := (ofPolicy p).history steps field
    (∀ found since, Latest turns found since →
      c.result = found.value.text ∧ c.formula = found.formula
        ∧ c.trace = if ∀ t ∈ since, t = .keep then found.trace else {})
    ∧ ((¬∃ found since, Latest turns found since) → c.result = [] ∧ c.formula = [] ∧ c.trace = {})
    ∧ (c.error ≠ [] → c.trace = {})
    ∧ ∀ s e, w.attempt? s field = some (.error e) →
        w.step s field =
          { calculator :=
              { c with
                error := e.message
                trace := {}
                bound := ((w.rest field).rest field).calculator.bound
                wantsFocus := false }
            focused := true } := by
  intro w c turns
  have hshown : c.outputs = turns.foldl Outputs.after {} := outputs_run field (ofPolicy p) steps
  obtain ⟨hresult, hformula, herror, htrace⟩ := Outputs.ext_iff.1 hshown
  refine ⟨?_, ?_, ?_, fun s e => step_of_attempt_error⟩
  · rintro found since ⟨⟨before, hturns⟩, hsince⟩
    rw [hturns, List.foldl_append, List.foldl_cons] at hresult hformula htrace
    obtain ⟨hr, hf, ht⟩ := Outputs.foldl_of_spares hsince
      ((before.foldl Outputs.after {}).after (.deposit found))
    exact ⟨hresult.trans hr, hformula.trans hf, htrace.trans ht⟩
  · intro hnone
    obtain ⟨hr, hf, ht⟩ := Outputs.foldl_of_not_latest hnone
    exact ⟨hresult.trans hr, hformula.trans hf, htrace.trans ht⟩
  · intro hne
    have hne' : (turns.foldl Outputs.after {}).error ≠ [] := herror ▸ hne
    exact htrace.trans (Outputs.trace_of_error_foldl (fun h => absurd rfl h) turns hne')

/-- A sum, then a division by zero: the sum is still shown after it, its trace no longer. -/
theorem Window.outputs_history_failure :
    let steps : List Step :=
      [.assign (.entry "1,2".toList), .input (.click .evaluate), .assign (.entry "1/0".toList)]
    let w := (ofPolicy {}).run steps
    let sum : Calculation :=
      { value := 3
        formula := "(1 + 2)".toList
        trace :=
          { delimiters := "\",\" \"\\n\"".toList
            tokens := "1 + 2".toList
            reversePolish := "1 2 +".toList } }
    Latest ((ofPolicy {}).history steps) sum [.keep]
    ∧ w.calculator.result = "3".toList ∧ w.calculator.formula = "(1 + 2)".toList
    ∧ w.calculator.trace = sum.trace
    ∧ w.attempt? (.input .enter) = some (.error .divisionByZero)
    ∧ (w.step (.input .enter)).calculator.error = "Attempted to divide by zero".toList
    ∧ (w.step (.input .enter)).calculator.result = "3".toList
    ∧ (w.step (.input .enter)).calculator.trace = {} := by
  intro steps w sum
  have hlatest : Latest ((ofPolicy {}).history steps) sum [.keep] :=
    ⟨⟨[.keep], by decide +kernel⟩, by decide⟩
  have hfails : w.attempt? (.input .enter) = some (.error .divisionByZero) := by decide +kernel
  obtain ⟨hshown, -, -, hfailure⟩ := Window.outputs_history .rounding {} steps
  obtain ⟨hresult, hformula, htrace⟩ := hshown sum _ hlatest
  have hthree : w.calculator.result = "3".toList := hresult.trans (by decide)
  have hstep := hfailure (.input .enter) .divisionByZero hfails
  refine ⟨hlatest, hthree, hformula, htrace, hfails, ?_, ?_, ?_⟩
  · rw [hstep]
    decide
  · rw [hstep]
    exact hthree
  · rw [hstep]

end StringCalculator
