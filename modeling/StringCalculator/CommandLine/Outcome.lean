import StringCalculator.CommandLine.Options
import StringCalculator.Terminal.Session

/-!
# `StringCalculator.CommandLine.Outcome` — a run of the program

The arguments decide what the program does: it answers a request for help, it calculates one
expression, or it holds a session at the terminal. A run is known by its exit code and by what it
writes. The log, if it is asked for, appears among the output.

Exit code 0 says that all went well, 1 that there is no value or that the run failed, 2 that the
arguments were refused.

## Contents
- **`Outcome`**: exit code and output.
- **`Start`, `start`**: all that happens before the first line of input is needed.
- **`run`**: the whole run for an input that ends, or that stays open until an interrupt.
-/

namespace StringCalculator.CommandLine

/-- How a run ends and what it has written. -/
structure Outcome where
  code : Nat
  stdout : Text := []
  stderr : Text := []
  deriving DecidableEq, Repr

/-! ## Fixed texts -/

/-- The name and the version of the program. -/
def versionLine : Text := "calculatrice_chaine 0.1.0\n".toList

/-- What the program is for and how it is called. -/
def helpText : Text :=
  versionLine ++ Text.ofLines
    ["Adds numbers and evaluates + - * / expressions from a delimited string",
      "",
      "USAGE:",
      "    calculatrice_chaine [OPTIONS] [EXPRESSION]",
      "",
      "ARGS:",
      "    <EXPRESSION>    Evaluate this expression once and exit (a literal \\n stands for a newline)",
      "",
      "OPTIONS:",
      "        --allow-negative               Accept negative numbers instead of rejecting them",
      "    -d, --debug                        Enable debug logging",
      "        --delimiter <DELIMITER>        Extra delimiter, active in addition to ',' and newline",
      "        --gui                          Open the graphical calculator",
      "    -h, --help                         Print help information",
      "        --upper-bound <UPPER_BOUND>    Numbers above this value count as 0 [default: 1000]",
      "    -V, --version                      Print version information"]

/-- A failure of the run in one line. -/
def failureLine (what : Text) : Text := "Error: ".toList ++ what ++ ['\n']

/-- A failure of the run with its cause. -/
def failureWithCause (what cause : Text) : Text :=
  failureLine what ++ "\nCaused by:\n    ".toList ++ cause ++ ['\n']

/-- The failure to open a window without a display. -/
def windowFailure : Text := "Error: failed to run the window: ".toList

/-! ## The run -/

/-- How a run ends that answers one expression, behind an opening. -/
def Outcome.ofAnswer (log : Bool) (opening : Transcript) (a : Terminal.Answer) : Outcome where
  code := if a.succeeded then 0 else 1
  stdout := (opening ++ a.transcript).shown log

/-- What the arguments lead to before any input is needed. -/
inductive Start where
  | finished (o : Outcome)
  /-- A session is to be held, with the log or without, under a policy, behind an opening. -/
  | session (log : Bool) (p : Policy) (opening : Transcript)

/-- Starts a run. An expression is calculated even if a window is asked for. -/
def start (args : List Text) : Start :=
  match Request.ofArguments args with
  | .help => .finished { code := 0, stdout := helpText }
  | .version => .finished { code := 0, stdout := versionLine }
  | .refused => .finished { code := 2 }
  | .run o =>
    match o.policy with
    | .error e => .finished { code := 1, stderr := failureLine e.message }
    | .ok p =>
      let opening : Transcript := [.event (.policy p)]
      match o.expression with
      | some expression => .finished (.ofAnswer o.debug opening (Terminal.answer p expression))
      | none =>
        if o.window then
          .finished { code := 1, stdout := opening.shown o.debug, stderr := windowFailure }
        else .session o.debug p (opening ++ [.event .interruptReady])

/-- How a run with a session ends. -/
def Outcome.ofSession (log : Bool) (opening : Transcript) (s : Terminal.Session) : Outcome where
  code := if s.failed then 1 else 0
  stdout := (opening ++ s.transcript).shown log
  stderr :=
    if s.failed then failureWithCause Terminal.readFailure Terminal.readFailureCause else []

/-- A run with the arguments and the input given. The input ends, or it stays open and the run is
    interrupted behind the prompt of a given number. -/
def run (args : List Text) (input : List UInt8) (interrupt : Option Nat) : Outcome :=
  match start args with
  | .finished o => o
  | .session log p opening =>
    .ofSession log opening <|
      match interrupt with
      | none => Terminal.session p input
      | some prompts => Terminal.interruptedSession p prompts input

end StringCalculator.CommandLine
