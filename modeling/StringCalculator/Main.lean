import StringCalculator.CommandLine.Outcome

/-!
# `StringCalculator.Main` — the program

Hands the arguments to `CommandLine.start`, then writes the outcome or holds the session that was
asked for, one line of standard input at a time. What is said and when it ends is decided elsewhere.
-/

namespace StringCalculator.Terminal

/-- Writes a text at once. -/
def write (stream : IO.FS.Stream) (t : Text) : IO Unit := do
  stream.putStr (String.ofList t)
  stream.flush

/-- Reads on to the end of a line, or to the end of the input. -/
partial def readLine (stream : IO.FS.Stream) (read : ByteArray) : IO ByteArray := do
  let byte ← stream.read 1
  if byte.isEmpty then return read
  else if byte.toList = [0x0a] then return read ++ byte
  else readLine stream (read ++ byte)

/-- Holds a session until it ends; the result is the exit code. -/
partial def hold (log : Bool) (p : Policy) : IO UInt32 := do
  let stdout ← IO.getStdout
  write stdout prompt
  let line ← readLine (← IO.getStdin) .empty
  if line.isEmpty then
    write stdout farewell
    return 0
  match reply p line.toList with
  | .exit =>
    write stdout farewell
    return 0
  | .unreadable =>
    write (← IO.getStderr) (CommandLine.failureWithCause readFailure readFailureCause)
    return 1
  | .answer a =>
    write stdout (a.transcript.shown log)
    hold log p

/-- Runs the program; the result is its exit code. -/
def runProgram (args : List Text) : IO UInt32 := do
  let stdout ← IO.getStdout
  match CommandLine.start args with
  | .finished o =>
    write stdout o.stdout
    write (← IO.getStderr) o.stderr
    return o.code.toUInt32
  | .session log p opening =>
    write stdout (opening.shown log ++ banner)
    hold log p

end StringCalculator.Terminal

/-- Runs the program on the arguments it was given. -/
def main (args : List String) : IO UInt32 :=
  StringCalculator.Terminal.runProgram (args.map String.toList)
