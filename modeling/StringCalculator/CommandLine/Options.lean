import StringCalculator.CommandLine.Arguments
import StringCalculator.Policy
import StringCalculator.Text.Typed

/-!
# `StringCalculator.CommandLine.Options` — what the arguments ask for

The mentions of the arguments are put together as one record of options, from which the policy of
the whole run follows.

## Contents
- **`Options`**, with `ofMentions?`: nothing is repeated, each value is there and can be read.
- **`Request`**: what the arguments as a whole ask for.
- **`Options.policy`**: the policy, or the setting that is refused.
-/

namespace StringCalculator.CommandLine

/-- What can be chosen on the command line. -/
structure Options where
  delimiter : Option Text := none
  upperBound : Number := 1000
  allowsNegatives : Bool := false
  window : Bool := false
  debug : Bool := false
  expression : Option Text := none
  deriving DecidableEq, Repr

/-! ## From mentions to options -/

/-- The switch that is mentioned. -/
def Mention.switch? : Mention → Option Switch
  | switch s _ => some s
  | expression _ => none

/-- The expression that is mentioned. -/
def Mention.expression? : Mention → Option Text
  | switch _ _ => none
  | expression t => some t

/-- The value that is mentioned for a switch. -/
def Mention.valueFor? (s : Switch) : Mention → Option Text
  | switch s' value? => if s' = s then value? else none
  | expression _ => none

/-- A value that belongs to a switch is there. -/
def Mention.isComplete : Mention → Bool
  | switch s value? => !s.takesValue || value?.isSome
  | expression _ => true

/-- The options that were mentioned. No switch may be repeated, no value may be missing, and the
    bound must be readable. -/
def Options.ofMentions? (ms : List Mention) : Option Options := do
  let switches := ms.filterMap Mention.switch?
  guard (switches.Nodup ∧ ms.all Mention.isComplete)
  let upperBound ←
    match ms.findSome? (Mention.valueFor? .upperBound) with
    | none => some 1000
    | some t => Number.ofText? t
  pure
    { delimiter := ms.findSome? (Mention.valueFor? .delimiter)
      upperBound
      allowsNegatives := switches.contains .allowNegative
      window := switches.contains .window
      debug := switches.contains .debug
      expression := ms.findSome? Mention.expression? }

/-- What the arguments as a whole ask for. -/
inductive Request where
  | run (options : Options)
  | help
  | version
  | refused
  deriving DecidableEq, Repr

/-- What the arguments ask for. -/
def Request.ofArguments (args : List Text) : Request :=
  match Mention.ofArguments args with
  | .error .help => .help
  | .error .version => .version
  | .error .refused => .refused
  | .ok ms =>
    match Options.ofMentions? ms with
    | some options => .run options
    | none => .refused

/-! ## From options to the policy -/

/-- Why the options give no policy. -/
inductive SettingError where
  | negativeBound (bound : Number)
  | delimiter (reason : HeaderError)
  deriving DecidableEq, Repr

/-- The reason in words. -/
def SettingError.message : SettingError → Text
  | negativeBound bound => "--upper-bound must be zero or positive, got ".toList ++ bound.text
  | delimiter reason => "invalid --delimiter: ".toList ++ reason.message

/-- The policy of the run: the standard one with the bound, the choice about negative numbers, and
    the delimiter in front of the standard ones. -/
def Options.policy (o : Options) : Except SettingError Policy :=
  if o.upperBound < 0 then .error (.negativeBound o.upperBound)
  else
    let p : Policy := { refusesNegatives := !o.allowsNegatives, bound := o.upperBound }
    match o.delimiter with
    | none => .ok p
    | some d =>
      ((Delimiters.ofList [Typed.decode d]).mapError .delimiter).map p.withDelimiters

end StringCalculator.CommandLine
