import StringCalculator.Text.Basic

/-!
# `StringCalculator.CommandLine.Arguments` — reading the arguments of the program

Arguments are read from left to right. A long name stands behind two hyphens, with its value behind
an equals sign or in the next argument; short names stand in a row behind one hyphen. What starts
with a hyphen and is longer is never taken for a value or for the expression, unless it stands
behind `--`.

A request for help or for the version ends the reading at once, and so does an argument that cannot
be understood. Repetitions and missing values are left to those who use what was read.

## Contents
- **`Switch`**: the names the program knows.
- **`Mention`**: a name with its value, or the expression, as it was met.
- **`Mention.ofArguments`**: everything mentioned, or what ended the reading.
-/

namespace StringCalculator.CommandLine

/-- The names that the program knows. -/
inductive Switch where
  | delimiter | upperBound | allowNegative | window | debug | help | version
  deriving DecidableEq, Repr

namespace Switch

/-- The name behind two hyphens. -/
def name : Switch → Text
  | delimiter => "delimiter".toList
  | upperBound => "upper-bound".toList
  | allowNegative => "allow-negative".toList
  | window => "gui".toList
  | debug => "debug".toList
  | help => "help".toList
  | version => "version".toList

/-- The letter behind one hyphen, if there is one. -/
def letter? : Switch → Option Char
  | debug => some 'd'
  | help => some 'h'
  | version => some 'V'
  | _ => none

/-- A value belongs to the name. -/
def takesValue : Switch → Bool
  | delimiter | upperBound => true
  | _ => false

/-- All names. -/
def all : List Switch := [delimiter, upperBound, allowNegative, window, debug, help, version]

/-- The switch of that name. -/
def ofName? (t : Text) : Option Switch := all.find? (·.name = t)

/-- The switch of that letter. -/
def ofLetter? (c : Char) : Option Switch := all.find? (·.letter? = some c)

theorem mem_all (s : Switch) : s ∈ all := by cases s <;> decide

end Switch

/-- What an argument mentions. -/
inductive Mention where
  | switch (s : Switch) (value? : Option Text)
  | expression (t : Text)
  deriving DecidableEq, Repr

/-- What ends the reading of the arguments at once. -/
inductive Stop where
  | help | version | refused
  deriving DecidableEq, Repr

namespace Mention

/-- A switch without a value, followed by more. A request for help or for the version goes first. -/
def flag (s : Switch) (rest : Except Stop (List Mention)) : Except Stop (List Mention) :=
  match s with
  | .help => .error .help
  | .version => .error .version
  | s => rest.map (.switch s none :: ·)

/-- Short names in a row, followed by more. -/
def letters (cs : Text) (rest : Except Stop (List Mention)) : Except Stop (List Mention) :=
  match cs with
  | [] => rest
  | c :: cs =>
    match Switch.ofLetter? c with
    | none => .error .refused
    | some s => flag s (letters cs rest)

/-- The name in front of the first equals sign, and the value behind it. -/
def splitAtEquals (t : Text) : Text × Option Text :=
  match t.dropWhile (· ≠ '=') with
  | [] => (t, none)
  | _ :: value => (t.takeWhile (· ≠ '='), some value)

/-- The argument can be a value or the expression. -/
def isPlain : Text → Bool
  | '-' :: _ :: _ => false
  | _ => true

/-- Everything the arguments mention. At most one expression is read, and none if one was `seen`
    before. -/
def ofArgumentsAfter (seen : Bool) : List Text → Except Stop (List Mention)
  | [] => .ok []
  | ['-', '-'] :: args =>
    match args with
    | [] => .ok []
    | [t] => if seen then .error .refused else .ok [.expression t]
    | _ => .error .refused
  | ('-' :: '-' :: t) :: args =>
    let (name, value?) := splitAtEquals t
    match Switch.ofName? name with
    | none => .error .refused
    | some s =>
      match s.takesValue, value? with
      | false, some _ => .error .refused
      | false, none => flag s (ofArgumentsAfter seen args)
      | true, some value => (ofArgumentsAfter seen args).map (.switch s (some value) :: ·)
      | true, none =>
        match args with
        | [] => .ok [.switch s none]
        | value :: others =>
          if isPlain value then
            (ofArgumentsAfter seen others).map (.switch s (some value) :: ·)
          else (ofArgumentsAfter seen (value :: others)).map (.switch s none :: ·)
  | ('-' :: c :: cs) :: args => letters (c :: cs) (ofArgumentsAfter seen args)
  | t :: args =>
    if seen then .error .refused
    else (ofArgumentsAfter true args).map (.expression t :: ·)

/-- Everything the arguments mention, or what ended their reading. -/
def ofArguments (args : List Text) : Except Stop (List Mention) := ofArgumentsAfter false args

end Mention

end StringCalculator.CommandLine
