import StringCalculator.Terminal.Answer

/-!
# `StringCalculator.Terminal.Session` — a conversation at the terminal

A session greets, then prompts for a line and answers it, over and over. It ends at a line that says
`exit`, at the end of the input, at an interrupt, or at a line that is not valid UTF-8. Input comes
as bytes; a line is read whole before it is decoded.

## Contents
- **`splitLines`, `decodeLine?`**: the lines of the input, and one line as text.
- **`Reply`, `reply`**: what a line leads to.
- **`Session`, `converse`**: the prompts and replies for given lines.
- **`session`, `interruptedSession`**: the whole session, to the end of the input or to an interrupt.
-/

namespace StringCalculator.Terminal

/-! ## Lines -/

/-- The lines of the input, each with the line feed that ends it; the last may lack one. -/
def splitLines : List UInt8 → List (List UInt8)
  | [] => []
  | b :: bytes =>
    if b = 0x0a then [b] :: splitLines bytes
    else
      match splitLines bytes with
      | [] => [[b]]
      | line :: lines => (b :: line) :: lines

/-- **Nothing is lost.** Put together in order, the lines are the input. -/
theorem flatten_splitLines (bytes : List UInt8) : (splitLines bytes).flatten = bytes := by
  fun_induction splitLines bytes <;> simp_all

/-- The text that the bytes encode in UTF-8. -/
def decodeLine? (bytes : List UInt8) : Option Text :=
  (String.fromUTF8? ⟨bytes.toArray⟩).map String.toList

/-- A line without the carriage returns and line feeds at its end. -/
def withoutTerminator (line : Text) : Text :=
  Text.dropEndWhile (fun c => c = '\r' ∨ c = '\n') line

/-- The line asks to end the session: `exit` in any case, white space around it. -/
def asksToExit (line : Text) : Bool := line.trim.equalIgnoringCase "exit".toList

/-! ## Replies -/

/-- What a line leads to. -/
inductive Reply where
  | answer (a : Answer)
  | exit
  | unreadable

/-- What a line of the input leads to. -/
def reply (p : Policy) (bytes : List UInt8) : Reply :=
  match decodeLine? bytes with
  | none => .unreadable
  | some line =>
    if asksToExit (withoutTerminator line) then .exit
    else .answer (answer p (withoutTerminator line))

/-! ## What the terminal says by itself -/

/-- The greeting. -/
def banner : Text :=
  Text.ofLines
    ["String Calculator",
      "Enter a mathematical expression using numbers, operators (+, -, *, /), " ++
        "parentheses and delimiters.",
      "You can also use custom delimiters in the format: //[delimiter]\\n[expression] " ++
        "(type \\n literally).",
      "Available command-line options:",
      "--delimiter=\"[delimiter]\" to add a delimiter to the defaults.",
      "--allow-negative to allow negative numbers.",
      "--upper-bound=[number] to set the upper bound for numbers.",
      "Type 'exit' or press Ctrl+C to quit."]

/-- What asks for a line. -/
def prompt : Text := "\nInput: ".toList

/-- The last words of a session that was left. -/
def farewell : Text := "Exiting the program...\n".toList

/-- The last words of a session that was interrupted. -/
def interruptNotice : Text := "\nCtrl+C detected. Exiting the program...\n".toList

/-- What failed when a line was not valid UTF-8. -/
def readFailure : Text := "failed to read from standard input".toList

/-- Why it failed. -/
def readFailureCause : Text := "stream did not contain valid UTF-8".toList

/-! ## Sessions -/

/-- What is written in a session, and whether a line that was not valid UTF-8 ended it. -/
structure Session where
  transcript : Transcript
  failed : Bool
  deriving DecidableEq

/-- Prompts for each line and replies to it. Where the lines end, the terminal has prompted once
    more and says `lastWords`. -/
def converse (p : Policy) (lastWords : Text) : List (List UInt8) → Session
  | [] => ⟨[.text prompt, .text lastWords], false⟩
  | line :: lines =>
    match reply p line with
    | .unreadable => ⟨[.text prompt], true⟩
    | .exit => ⟨[.text prompt, .text farewell], false⟩
    | .answer a =>
      let rest := converse p lastWords lines
      { rest with transcript := .text prompt :: a.transcript ++ rest.transcript }

/-- A session greets first. -/
def greeted (s : Session) : Session := { s with transcript := .text banner :: s.transcript }

/-- The session for an input that ends. -/
def session (p : Policy) (input : List UInt8) : Session :=
  greeted (converse p farewell (splitLines input))

/-- The session for an input that stays open, interrupted behind the prompt of the given number.
    Only lines that are complete have been answered by then. -/
def interruptedSession (p : Policy) (prompts : Nat) (input : List UInt8) : Session :=
  let complete := (splitLines input).filter (·.getLast? = some 0x0a)
  greeted (converse p interruptNotice (complete.take (prompts - 1)))

end StringCalculator.Terminal
