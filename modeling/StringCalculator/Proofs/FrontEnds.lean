import StringCalculator.CommandLine.Outcome
import StringCalculator.Proofs.Calculator.Policy
import StringCalculator.Proofs.Terminal.Session
import StringCalculator.Proofs.Window.Outputs

/-!
# `StringCalculator.Proofs.FrontEnds` — three front ends, one answer

An expression can be given on the command line, typed in a session or typed in the window. Each of the three
decodes it, comes by a policy and tells success from failure in a place of its own. They agree all the same:
what they show is a matter of the outcome of one calculation (`output_answer`, `outputs_click_evaluate`), and
the same choices, made on the command line or in the window, make the same policy (`policy_eq_policy`).

## Contents
- **`succeeded_answer`**, **`output_answer`**: the answer at the terminal by the outcome.
- **`output_session_of_holds`**, **`run_of_expression`**: an entry in a session, an expression among the
  arguments.
- **`outcome_entered`**, **`outputs_click_evaluate`**: the first entry in a window.
- **`policy_eq_policy`**: the options of the command line and the settings of the window.
- **`front_ends_agree`**: all of it together.
-/

namespace StringCalculator

/-! ## At the terminal -/

namespace Terminal

/-- The text for an outcome. -/
def outcomeText : Except CalculationError Calculation → Text
  | .ok c => report c
  | .error e => complaint e

variable (p : Policy) (s : Text)

/-- The course of a calculation is for the log alone. -/
theorem output_answer :
    (answer p s).transcript.output = outcomeText (calculate p (Typed.decode s)).outcome := by
  simp only [answer]
  cases (calculate p (Typed.decode s)).outcome with
  | ok c => simp [outcomeText]
  | error e => simp [outcomeText]

theorem succeeded_answer :
    (answer p s).succeeded ↔ ∃ c, (calculate p (Typed.decode s)).outcome = .ok c := by
  simp only [answer]
  cases (calculate p (Typed.decode s)).outcome with
  | ok c => simp
  | error e => simp

variable {s}

/-- A text without a line feed that does not end in a carriage return is what its line holds, however the
    line ends. -/
theorem holds_encode {ends : Text} (hfeed : '\n' ∉ s) (hreturn : s.getLast? ≠ some '\r')
    (hends : ∀ c ∈ ends, c = '\r' ∨ c = '\n') : Holds (encode (s ++ ends)) s := by
  refine ⟨ends, rfl, hends, ?_⟩
  rintro c hlast (rfl | rfl)
  · exact hreturn hlast
  · exact hfeed (List.mem_of_getLast? hlast)

/-- **An entry anywhere in a session** is answered, unless an entry before it or it itself says `exit`. -/
theorem output_session_of_holds {input line : List UInt8} {front rest : List (List UInt8)}
    {entries : List Text} (hlines : LinesOf input (front ++ line :: rest))
    (hfront : List.Forall₂ Holds front entries) (hgoes : ∀ e ∈ entries, ¬SaysExit e)
    (hline : Holds line s) (hexit : ¬SaysExit s) :
    (session p input).transcript.output =
      banner ++ entries.flatMap (exchange p) ++ exchange p s
        ++ (converse p farewell rest).transcript.output := by
  have hbefore : (converse p farewell (front ++ line :: rest)).transcript.output
      = entries.flatMap (exchange p) ++ (converse p farewell (line :: rest)).transcript.output :=
    (converse_append hfront hgoes (line :: rest)).1
  have hhere := (converse_cons p farewell hline hexit rest).1
  rw [session, greeted, ← linesOf_iff.1 hlines, Transcript.output_text, hbefore, hhere]
  simp only [List.append_assoc]

end Terminal

/-! ## On the command line -/

namespace CommandLine

variable {p : Policy} {s : Text}

/-- The exit code tells success from failure. -/
theorem code_ofAnswer (p : Policy) (s : Text) (log : Bool) (opening : Transcript) :
    ((∃ c, (calculate p (Typed.decode s)).outcome = .ok c) →
        (Outcome.ofAnswer log opening (Terminal.answer p s)).code = 0)
      ∧ ((∃ e, (calculate p (Typed.decode s)).outcome = .error e) →
        (Outcome.ofAnswer log opening (Terminal.answer p s)).code = 1) := by
  constructor
  · intro hok
    exact if_pos ((Terminal.succeeded_answer p s).2 hok)
  · rintro ⟨e, he⟩
    refine if_neg fun hok => ?_
    obtain ⟨c, hc⟩ := (Terminal.succeeded_answer p s).1 hok
    rw [he] at hc
    cases hc

/-- The texts among the output are those of the answer. -/
theorem exists_stdout_ofAnswer (a : Terminal.Answer) (log : Bool) (events : List Event) :
    ∃ t : Transcript, t.output = a.transcript.output
      ∧ (Outcome.ofAnswer log (.ofEvents events) a).stdout = t.shown log :=
  ⟨.ofEvents events ++ a.transcript, by simp, rfl⟩

/-- A run with an expression needs no input. -/
theorem run_of_expression {args : List Text} {o : Options} (hrequest : Request.ofArguments args = .run o)
    (hpolicy : o.policy = .ok p) (hexpression : o.expression = some s) (input : List UInt8)
    (interrupt : Option Nat) :
    run args input interrupt = .ofAnswer o.debug (.ofEvents [.policy p]) (Terminal.answer p s) := by
  simp only [run, start, hrequest, hpolicy, hexpression]
  rfl

end CommandLine

/-! ## In the window -/

/-- No error is without words. -/
theorem CalculationError.message_ne_nil (e : CalculationError) : e.message ≠ [] := by
  cases e <;> exact List.cons_ne_nil _ _

namespace Window

variable {p : Policy} {field : NumberField}

/-- A fresh window in which something was entered, after a frame at rest. A starting bound that is not
    negative lies in the range of the field. -/
theorem rest_entered (hfield : field.Keeps (Calculator.ofPolicy p).maxBound) (hbound : 0 ≤ p.bound)
    (s : Text) :
    ((ofPolicy p).step (.assign (.entry s)) field).rest field =
      { calculator := { Calculator.ofPolicy p with entry := s, wantsFocus := false }, focused := true } := by
  have hkept : field (Calculator.ofPolicy p).maxBound p.bound = p.bound :=
    hfield p.bound hbound (Int64.le_iff_toInt_le.2 (Calculator.le_maxBound_ofPolicy p))
  show Window.mk
    { Calculator.ofPolicy p with
      entry := s
      bound := field (Calculator.ofPolicy p).maxBound p.bound
      wantsFocus := false } true = _
  rw [hkept]
  rfl

/-- The first entry is calculated under the starting policy. -/
theorem outcome_entered (hfield : field.Keeps (Calculator.ofPolicy p).maxBound) (hbound : 0 ≤ p.bound)
    (s : Text) :
    (((ofPolicy p).step (.assign (.entry s)) field).rest field).calculator.outcome
      = (calculate p (Typed.decode s)).outcome := by
  have hpolicy := Calculator.policy_ofPolicy p
  rw [if_neg (Int64.not_lt.2 hbound)] at hpolicy
  rw [rest_entered hfield hbound]
  show (calculate (Calculator.ofPolicy p).policy (Typed.decode s)).outcome = _
  rw [hpolicy]

/-- **What a fresh window shows** once an entry is evaluated. -/
theorem outputs_click_evaluate (hfield : field.Keeps (Calculator.ofPolicy p).maxBound)
    (hbound : 0 ≤ p.bound) (s : Text) :
    ((ofPolicy p).run [.assign (.entry s), .input (.click .evaluate)] field).calculator.outputs
      = Outputs.after {} (.ofOutcome (calculate p (Typed.decode s)).outcome) := by
  rw [outputs_run, ← outcome_entered hfield hbound]
  rfl

/-- The outputs of the window are what the terminal writes, without the words around them. -/
theorem output_answer_of_click_evaluate (hfield : field.Keeps (Calculator.ofPolicy p).maxBound)
    (hbound : 0 ≤ p.bound) (s : Text) :
    let c := ((ofPolicy p).run [.assign (.entry s), .input (.click .evaluate)] field).calculator
    ((∃ found, (calculate p (Typed.decode s)).outcome = .ok found) ∧ c.error = []
        ∧ (Terminal.answer p s).transcript.output =
          (if c.formula = [] then []
            else "Formula: ".toList ++ c.formula ++ " = ".toList ++ c.result ++ ['\n'])
          ++ "Result: ".toList ++ c.result ++ ['\n'])
      ∨ ((∃ e, (calculate p (Typed.decode s)).outcome = .error e) ∧ c.error ≠ []
        ∧ (Terminal.answer p s).transcript.output = "Error: ".toList ++ c.error ++ ['\n']) := by
  intro c
  have hshown : c.outputs = Outputs.after {} (.ofOutcome (calculate p (Typed.decode s)).outcome) :=
    outputs_click_evaluate hfield hbound s
  rw [Terminal.output_answer]
  cases houtcome : (calculate p (Typed.decode s)).outcome with
  | ok found =>
    rw [houtcome] at hshown
    obtain ⟨hresult, hformula, herror, -⟩ := Outputs.ext_iff.1 hshown
    have hresult' : c.result = found.value.text := hresult
    have hformula' : c.formula = found.formula := hformula
    rw [hresult', hformula']
    exact .inl ⟨⟨found, rfl⟩, herror, rfl⟩
  | error e =>
    rw [houtcome] at hshown
    have herror : c.error = e.message := (Outputs.ext_iff.1 hshown).2.2.1
    rw [herror]
    exact .inr ⟨⟨e, rfl⟩, e.message_ne_nil, rfl⟩

end Window

/-! ## The same choices -/

/-- **The same choices make the same policy**, on the command line and in the window. -/
theorem CommandLine.Options.policy_eq_policy {o : Options} {d : Text} (hd : d ≠ [])
    (hdelimiter : o.delimiter = some d) (hlow : 0 ≤ o.upperBound) (hhigh : o.upperBound ≤ 1000000000) :
    let c : Calculator :=
      { Calculator.ofPolicy {} with
        allowsNegatives := o.allowsNegatives
        bound := o.upperBound
        extraDelimiter := d }
    o.policy = .ok c.policy := by
  intro c
  have hbound : c.clampedBound = o.upperBound := by
    have htop : o.upperBound.toInt ≤ c.maxBound.toInt := by
      rw [Calculator.toInt_maxBound]
      exact Int.le_trans (Int64.le_iff_toInt_le.1 hhigh) (Int.le_max_left _ _)
    exact Calculator.clampedBound_eq_self (c := c) (Int64.le_iff_toInt_le.1 hlow) htop
  obtain ⟨extra, hextra, -⟩ := Calculator.exists_extra (c := c) hd
  have hset : Delimiters.ofList [Typed.decode d] = .ok extra := hextra
  rw [Calculator.policy_of_extra hextra, hbound, policy, if_neg (Int64.not_lt.2 hlow), hdelimiter]
  simp only [hset]
  rfl

/-! ## All three -/

/-- **The front ends agree.** For every policy `p` and every text `s`, let `o` be what the terminal writes for
    `s` under `p`:

    * a run for this one expression writes `o`, with the lines of the log between if there is one, and its
      exit code is 0 if the calculation succeeds and 1 if it fails; the program runs so whenever its
      arguments make this policy and hold this expression;
    * wherever a session has a line with `s` on it, and neither this nor a line before it ends the session,
      `o` is written behind the prompt, and the session goes on;
    * a fresh window with `s` entered, evaluated by a click, shows either no error, and `o` is made of its
      formula and its result, or the error that `o` complains of; its field may be any one that leaves the
      bounds in its range alone, as the one in use does;
    * the options of the command line and the settings of the window make the same policy. -/
theorem front_ends_agree (p : Policy) (s : Text) :
    let outcome := (calculate p (Typed.decode s)).outcome
    let o := (Terminal.answer p s).transcript.output
    (∀ log,
      let r := CommandLine.Outcome.ofAnswer log (.ofEvents [.policy p]) (Terminal.answer p s)
      ((∃ c, outcome = .ok c) → r.code = 0) ∧ ((∃ e, outcome = .error e) → r.code = 1)
        ∧ r.stderr = [] ∧ (∃ t : Transcript, t.output = o ∧ r.stdout = t.shown log)
        ∧ ∀ args options input interrupt, CommandLine.Request.ofArguments args = .run options →
            options.policy = .ok p → options.expression = some s → options.debug = log →
            CommandLine.run args input interrupt = r)
    ∧ (∀ input front ends rest entries,
        Terminal.LinesOf input (front ++ Terminal.encode (s ++ ends) :: rest) →
        List.Forall₂ Terminal.Holds front entries → (∀ e ∈ entries, ¬Terminal.SaysExit e) →
        (∀ c ∈ ends, c = '\r' ∨ c = '\n') → '\n' ∉ s → s.getLast? ≠ some '\r' → ¬Terminal.SaysExit s →
        (Terminal.session p input).transcript.output =
          Terminal.banner
            ++ entries.flatMap (fun e => Terminal.prompt ++ (Terminal.answer p e).transcript.output)
            ++ (Terminal.prompt ++ o)
            ++ (Terminal.converse p Terminal.farewell rest).transcript.output)
    ∧ (NumberField.rounding.Keeps (Calculator.ofPolicy p).maxBound
      ∧ ∀ field : NumberField, field.Keeps (Calculator.ofPolicy p).maxBound → 0 ≤ p.bound →
        let c := ((Window.ofPolicy p).run [.assign (.entry s), .input (.click .evaluate)] field).calculator
        ((∃ found, outcome = .ok found) ∧ c.error = []
          ∧ o = (if c.formula = [] then []
              else "Formula: ".toList ++ c.formula ++ " = ".toList ++ c.result ++ ['\n'])
            ++ "Result: ".toList ++ c.result ++ ['\n'])
        ∨ ((∃ e, outcome = .error e) ∧ c.error ≠ [] ∧ o = "Error: ".toList ++ c.error ++ ['\n']))
    ∧ ∀ (options : CommandLine.Options) d, d ≠ [] → options.delimiter = some d →
        0 ≤ options.upperBound → options.upperBound ≤ 1000000000 →
        let c : Calculator :=
          { Calculator.ofPolicy {} with
            allowsNegatives := options.allowsNegatives
            bound := options.upperBound
            extraDelimiter := d }
        options.policy = .ok c.policy := by
  intro outcome o
  refine ⟨fun log => ?_, ?_, ⟨NumberField.keeps_rounding _, ?_⟩,
    fun options d hd hdelimiter hlow hhigh =>
      CommandLine.Options.policy_eq_policy hd hdelimiter hlow hhigh⟩
  · obtain ⟨hok, herror⟩ := CommandLine.code_ofAnswer p s log (.ofEvents [.policy p])
    refine ⟨hok, herror, rfl, CommandLine.exists_stdout_ofAnswer _ log _, ?_⟩
    rintro args options input interrupt hrequest hpolicy hexpression rfl
    exact CommandLine.run_of_expression hrequest hpolicy hexpression input interrupt
  · intro input front ends rest entries hlines hfront hgoes hends hfeed hreturn hexit
    exact Terminal.output_session_of_holds p hlines hfront hgoes
      (Terminal.holds_encode hfeed hreturn hends) hexit
  · exact fun field hfield hbound => Window.output_answer_of_click_evaluate hfield hbound s

/-- A sum with a delimiter from the options, a line feed in two characters and a number above the bound. -/
theorem front_ends_agree_typed :
    let s := "1;60\\n2".toList
    let args := ["--delimiter=;".toList, "--upper-bound=50".toList, s]
    let input := Terminal.encode (s ++ "\r\n".toList)
    let options : CommandLine.Options :=
      { delimiter := some ";".toList, upperBound := 50, expression := some s }
    let settings : Calculator :=
      { Calculator.ofPolicy {} with
        allowsNegatives := false
        bound := 50
        extraDelimiter := ";".toList }
    let p := settings.policy
    let o := (Terminal.answer p s).transcript.output
    let c := ((Window.ofPolicy p).run [.assign (.entry s), .input (.click .evaluate)]).calculator
    options.policy = .ok p
    ∧ (CommandLine.run args [] none).code = 0 ∧ (CommandLine.run args [] none).stdout = o
    ∧ (Terminal.session p input).transcript.output =
        Terminal.banner ++ (Terminal.prompt ++ o) ++ (Terminal.prompt ++ Terminal.farewell)
    ∧ c.error = [] ∧ c.formula = "((1 + 0) + 2)".toList ∧ c.result = "3".toList := by
  intro s args input options settings p o c
  have hsucceeds : ∃ found, (calculate p (Typed.decode s)).outcome = .ok found :=
    (Terminal.succeeded_answer p s).1 (by decide +kernel)
  obtain ⟨hone, hsession, ⟨-, hwindow⟩, hsettings⟩ := front_ends_agree p s
  have hpolicy : options.policy = .ok p :=
    hsettings options ";".toList (by decide) rfl (by decide) (by decide)
  obtain ⟨hcode, -, -, ⟨t, ht, hstdout⟩, hrun⟩ := hone false
  rw [hrun args options [] none (by decide +kernel) hpolicy rfl rfl]
  refine ⟨hpolicy, hcode hsucceeds, hstdout.trans ht, ?_, ?_, by decide +kernel, by decide +kernel⟩
  · have hlines : Terminal.LinesOf input [input] := Terminal.linesOf_iff.2 (by decide +kernel)
    have hexit : ¬Terminal.SaysExit s := mt Terminal.asksToExit_iff.2 (by decide +kernel)
    have hends : ∀ c ∈ "\r\n".toList, c = '\r' ∨ c = '\n' := by simp
    have hanswered := hsession input [] "\r\n".toList [] [] hlines .nil (by simp) hends
      (by decide) (by decide) hexit
    simpa [Terminal.converse] using hanswered
  · rcases hwindow .rounding (NumberField.keeps_rounding _) (by decide +kernel) with ⟨-, herror, -⟩ | ⟨⟨e, he⟩, -⟩
    · exact herror
    · obtain ⟨found, hfound⟩ := hsucceeds
      rw [hfound] at he
      cases he

end StringCalculator
