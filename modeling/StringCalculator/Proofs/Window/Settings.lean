import StringCalculator.Proofs.Calculator.Policy
import StringCalculator.Window

/-!
# `StringCalculator.Proofs.Window.Settings` — the policy in force over a whole run

A window starts under a policy and never loses it: no step changes the starting policy (`start_run`), not
even a reset, which builds the whole state anew. What the policy in force keeps of the starting one then
holds after every run, whatever the settings have become.

Two places bring the bound into its range, the field in which it is set and the policy in force. The field
belongs to the screen and is left open here; all that is asked of it is that it brings every number into
the range that it was told (`NumberField.Clamps`). Then the two agree on every bound, so a frame at rest
changes nothing that counts (`policy_rest`). The field in use does so as long as the largest bound is within
its precision (`NumberField.clamps_rounding`).

## Contents
- **`Calculator.policy_assign`**: what a setting does to the policy in force.
- **`start_step`**, **`start_run`**: the starting policy stays.
- **`policy_rest`**, **`bound_rest`**: a frame at rest; **`policy_frames`**, **`bound_frames`**: any number
  of them.
- **`policy_handle`**, **`policy_step`**: what an input does to the policy in force, and what a step does.
- **`settings_run`**: the settings and the policy in force after any run.
-/

namespace StringCalculator

/-! ## One setting -/

/-- **A setting changes its own part of the policy in force.** A bound counts as the nearest number in its
    range, and an extra delimiter stands in front of those of the starting policy. -/
theorem Calculator.policy_assign (c : Calculator) (a : Assignment) :
    match a with
    | .entry _ => (c.assign a).policy = c.policy
    | .allowsNegatives b => (c.assign a).policy = { c.policy with refusesNegatives := !b }
    | .bound n => ∃ bound : Number, bound.toInt = max 0 (min n.toInt c.maxBound.toInt)
        ∧ (c.assign a).policy = { c.policy with bound := bound }
    | .extraDelimiter t => ∃ ds : Delimiters, (c.assign a).policy = { c.policy with delimiters := ds }
        ∧ ds.toList =
          if t = [] then c.start.delimiters.toList
          else Typed.decode t :: c.start.delimiters.toList.filter (· ≠ Typed.decode t) := by
  cases a with
  | entry t => rfl
  | allowsNegatives b =>
    simp only [policy, assign]
    split <;> rfl
  | bound n =>
    refine ⟨(c.assign (.bound n)).clampedBound, toInt_clampedBound _, ?_⟩
    simp only [policy, assign]
    split <;> rfl
  | extraDelimiter t =>
    refine ⟨(c.assign (.extraDelimiter t)).policy.delimiters, ?_, toList_delimiters_policy _⟩
    rw [policy_eq, c.policy_eq]
    rfl

theorem Calculator.policy_evaluate (c : Calculator) : c.evaluate.policy = c.policy := by
  rw [evaluate_eq]
  rfl

/-! ## The starting policy -/

theorem Calculator.start_evaluate (c : Calculator) : c.evaluate.start = c.start := by rw [evaluate_eq]

theorem Calculator.start_press (c : Calculator) (b : Button) : (c.press b).start = c.start := by
  cases b with
  | evaluate => exact c.start_evaluate
  | _ => rfl

namespace Window

variable (field : NumberField)

theorem start_handle (w : Window) (i : Input) : (w.handle i).calculator.start = w.calculator.start := by
  cases i with
  | click b => exact w.calculator.start_press b
  | enter =>
    rw [handle]
    split
    · exact w.calculator.start_evaluate
    · exact .refl _
  | _ => rfl

/-- **No step changes the starting policy.** -/
theorem start_step (w : Window) (s : Step) : (w.step s field).calculator.start = w.calculator.start := by
  cases s with
  | assign a => cases a <;> rfl
  | input i => exact (w.rest field).start_handle i
  | _ => rfl

/-- No run does. -/
theorem start_run (w : Window) (steps : List Step) :
    (w.run steps field).calculator.start = w.calculator.start := by
  induction steps generalizing w with
  | nil => exact .refl _
  | cons s steps ih => exact (ih (w.step s field)).trans (w.start_step field s)

/-- The largest bound is a matter of the starting policy alone. -/
theorem maxBound_run (w : Window) (steps : List Step) :
    (w.run steps field).calculator.maxBound = w.calculator.maxBound := by
  rw [Calculator.maxBound, Calculator.maxBound, start_run]

/-! ## Frames at rest -/

variable {field} {w : Window}

/-- The field brings the bound into the same range as the policy in force. -/
theorem bound_rest (hclamps : field.Clamps w.calculator.maxBound) :
    (w.rest field).calculator.bound = w.calculator.clampedBound := by
  have top := w.calculator.toInt_maxBound
  have hfield := hclamps w.calculator.bound
  rw [← Int64.toInt_inj, Calculator.toInt_clampedBound]
  show (field w.calculator.maxBound w.calculator.bound).toInt = _
  omega

/-- **A frame at rest changes nothing that counts.** -/
theorem policy_rest (hclamps : field.Clamps w.calculator.maxBound) :
    (w.rest field).calculator.policy = w.calculator.policy :=
  Calculator.policy_congr rfl rfl (Calculator.clampedBound_clampedBound rfl (bound_rest hclamps)) rfl

/-- Any number of frames at rest. -/
theorem policy_frames (hclamps : field.Clamps w.calculator.maxBound) (n : Nat) :
    (w.run (List.replicate n .frame) field).calculator.policy = w.calculator.policy := by
  induction n generalizing w with
  | zero => rfl
  | succ n ih =>
    have hrest : field.Clamps (w.rest field).calculator.maxBound := hclamps
    exact (ih hrest).trans (policy_rest hclamps)

/-- After at least one frame at rest the bound shown is the one in force. -/
theorem bound_frames (hclamps : field.Clamps w.calculator.maxBound) (n : Nat) :
    (w.run (List.replicate (n + 1) .frame) field).calculator.bound = w.calculator.policy.bound := by
  have hlast : w.run (List.replicate (n + 1) .frame) field
      = (w.run (List.replicate n .frame) field).rest field := by
    simp [run, List.replicate_succ', step]
  have hclamps' : field.Clamps (w.run (List.replicate n .frame) field).calculator.maxBound := by
    rwa [maxBound_run]
  rw [hlast, bound_rest hclamps', ← Calculator.bound_policy, policy_frames hclamps]

/-! ## Changes of the policy -/

/-- **Two inputs change the policy in force**: the box for negative numbers and a reset. -/
theorem policy_handle (w : Window) (i : Input) :
    (w.handle i).calculator.policy =
      match i with
      | .toggleNegatives =>
        { w.calculator.policy with refusesNegatives := !w.calculator.policy.refusesNegatives }
      | .click .reset => (Calculator.ofPolicy w.calculator.start).policy
      | _ => w.calculator.policy := by
  cases i with
  | click b =>
    cases b with
    | evaluate => exact w.calculator.policy_evaluate
    | _ => rfl
  | toggleNegatives =>
    have hbox := w.calculator.policy_assign (.allowsNegatives !w.calculator.allowsNegatives)
    have hrefuses : w.calculator.policy.refusesNegatives = !w.calculator.allowsNegatives := by
      rw [Calculator.policy_eq]
    rw [hrefuses]
    exact hbox
  | enter =>
    rw [handle]
    split
    · exact w.calculator.policy_evaluate
    · rfl
  | _ => rfl

/-- **What a step does to the policy in force.** The frames around an input do nothing to it. -/
theorem policy_step (hclamps : field.Clamps w.calculator.maxBound) (s : Step) :
    (w.step s field).calculator.policy =
      match s with
      | .assign a => (w.calculator.assign a).policy
      | .input .toggleNegatives =>
        { w.calculator.policy with refusesNegatives := !w.calculator.policy.refusesNegatives }
      | .reset | .input (.click .reset) => (Calculator.ofPolicy w.calculator.start).policy
      | _ => w.calculator.policy := by
  cases s with
  | frame => exact policy_rest hclamps
  | input i =>
    have hclamps' : field.Clamps ((w.rest field).handle i).calculator.maxBound := by
      rwa [Calculator.maxBound, start_handle]
    show (((w.rest field).handle i).rest field).calculator.policy = _
    rw [policy_rest hclamps', policy_handle, policy_rest hclamps]
    cases i with
    | click b => cases b <;> rfl
    | _ => rfl
  | _ => rfl

/-! ## After any run -/

/-- **The settings over a whole run.** From the start under a policy `p`, after any steps:

    * the largest bound is the customary one, or that of `p` if it is larger;
    * the bound in force lies between zero and the largest one;
    * all delimiters of `p` are in force, none is empty or repeated, and an extra one comes first;
    * frames at rest do not change the policy in force, and after one of them the bound shown is the bound
      in force, with any field that brings the bound into its range;
    * a reset leads back to the state at the start, where the policy in force is `p`, but that a negative
      bound counts as zero. -/
theorem settings_run (field : NumberField) (p : Policy) (steps : List Step) :
    let w := (ofPolicy p).run steps field
    let c := w.calculator
    c.maxBound.toInt = max 1000000000 p.bound.toInt
    ∧ (0 ≤ c.policy.bound.toInt ∧ c.policy.bound.toInt ≤ c.maxBound.toInt)
    ∧ (∀ d ∈ p.delimiters, d ∈ c.policy.delimiters)
    ∧ (c.policy.delimiters.toList.Nodup ∧ [] ∉ c.policy.delimiters.toList)
    ∧ (c.extraDelimiter ≠ [] →
        c.policy.delimiters.toList.head? = some (Typed.decode c.extraDelimiter))
    ∧ (field.Clamps c.maxBound → ∀ n,
        (w.run (List.replicate n .frame) field).calculator.policy = c.policy
        ∧ (0 < n → (w.run (List.replicate n .frame) field).calculator.bound = c.policy.bound))
    ∧ (w.step .reset field).calculator = Calculator.ofPolicy p
    ∧ (Calculator.ofPolicy p).policy = { p with bound := if p.bound < 0 then 0 else p.bound } := by
  intro w c
  have hstart : c.start = p := start_run field (ofPolicy p) steps
  have hdelimiters := c.toList_delimiters_policy
  rw [hstart] at hdelimiters
  refine ⟨?_, ?_, ?_, ?_, ?_, ?_, ?_, Calculator.policy_ofPolicy p⟩
  · rw [Calculator.toInt_maxBound, hstart]
  · rw [Calculator.bound_policy]
    exact ⟨c.clampedBound_nonneg, c.clampedBound_le⟩
  · intro d hd
    rw [Delimiters.mem_def, hdelimiters]
    split
    · exact hd
    · by_cases hextra : d = Typed.decode c.extraDelimiter
      · exact hextra ▸ List.mem_cons_self
      · exact List.mem_cons_of_mem _ (List.mem_filter.2 ⟨hd, by simpa using hextra⟩)
  · exact ⟨c.policy.delimiters.nodup, c.policy.delimiters.nil_notMem⟩
  · intro hextra
    rw [hdelimiters, if_neg hextra, List.head?_cons]
  · intro hclamps n
    refine ⟨policy_frames hclamps n, fun hpos => ?_⟩
    obtain ⟨m, rfl⟩ := Nat.exists_eq_succ_of_ne_zero (Nat.ne_of_gt hpos)
    exact bound_frames hclamps m
  · show Calculator.ofPolicy c.start = _
    rw [hstart]

/-- The field in use, with a starting bound above the customary one: an extra delimiter that is active
    already comes to the front, and a bound set too high is taken down by the frames. -/
theorem settings_run_wide :
    let p : Policy := { bound := 5000000000 }
    let w := (ofPolicy p).run
      [.assign (.extraDelimiter "\\n".toList), .assign (.bound (-7)), .input (.click .evaluate),
        .assign (.bound 6000000000)]
    NumberField.rounding.Clamps w.calculator.maxBound
    ∧ w.calculator.maxBound = 5000000000 ∧ w.calculator.policy.delimiters.toList = [['\n'], [',']]
    ∧ (w.run (List.replicate 2 .frame)).calculator.policy = w.calculator.policy
    ∧ (w.run (List.replicate 2 .frame)).calculator.bound = w.calculator.policy.bound
    ∧ (w.step .reset).calculator = Calculator.ofPolicy p := by
  intro p w
  have hclamps : NumberField.rounding.Clamps w.calculator.maxBound :=
    NumberField.clamps_rounding (by decide +kernel)
  obtain ⟨-, -, -, -, -, hframes, hreset, -⟩ := settings_run .rounding p
    [.assign (.extraDelimiter "\\n".toList), .assign (.bound (-7)), .input (.click .evaluate),
      .assign (.bound 6000000000)]
  obtain ⟨hpolicy, hbound⟩ := hframes hclamps 2
  exact ⟨hclamps, by decide +kernel, by decide +kernel, hpolicy, hbound (by decide), hreset⟩

end Window

end StringCalculator
