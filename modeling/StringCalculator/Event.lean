import StringCalculator.Policy
import StringCalculator.Token

/-!
# `StringCalculator.Event` — what the log records

The steps of a calculation, of the terminal and of the program that are worth a line in the log. An
event keeps the data; its level, its origin and its wording are functions of it.

## Contents
- **`Event`**, with `level`, `origin` and `message`.
- **`Event.logLine`**: the event as one line of the log.
-/

namespace StringCalculator

/-- How much an event matters. -/
inductive Level where
  | debug | info
  deriving DecidableEq, Repr

/-- The level in capitals, five characters wide. -/
def Level.text : Level → Text
  | debug => "DEBUG".toList
  | info => "INFO ".toList

/-- A step worth recording. -/
inductive Event where
  /-- A header has declared these delimiters. -/
  | header (ds : Delimiters)
  /-- A word is no numeral and counts as zero. -/
  | invalidWord (word : Text)
  /-- A value lies above the bound and counts as zero. -/
  | aboveBound (value : Int) (bound : Number)
  /-- The tokens of the expression. -/
  | tokens (ts : List (Token Number))
  /-- The tokens in reverse Polish order. -/
  | reversePolish (ts : List (Token Number))
  /-- The value of the expression and its formula. -/
  | result (formula : Text) (value : Number)
  /-- An entry at the terminal has no value. -/
  | failure (entry : Text) (error : CalculationError)
  /-- The program runs under this policy. -/
  | policy (p : Policy)
  /-- The terminal answers to an interrupt from now on. -/
  | interruptReady
  deriving DecidableEq

/-! ## Errors by name -/

/-- The name of the reason. -/
def HeaderError.name : HeaderError → Text
  | missingTerminator => "MissingTerminator".toList
  | emptyDelimiter => "EmptyDelimiter".toList
  | bracketSyntax => "BracketSyntax".toList
  | mismatchedBrackets => "MismatchedBrackets".toList
  | bracketInPlainDelimiter => "BracketInPlainDelimiter".toList

/-- The name of the error, with its data in parentheses. -/
def CalculationError.name : CalculationError → Text
  | malformedHeader reason => "MalformedHeader(".toList ++ reason.name ++ [')']
  | negativesNotAllowed values => "NegativesNotAllowed([".toList ++ listed values ++ "])".toList
  | invalidExpression fault =>
    "InvalidExpression(".toList ++ Quoted.quote fault.message ++ [')']
  | mismatchedParentheses => "MismatchedParentheses".toList
  | divisionByZero => "DivisionByZero".toList
  | overflow => "Overflow".toList

namespace Event

/-- How much the event matters: the program's own steps more than those of a calculation. -/
def level : Event → Level
  | policy _ | interruptReady => .info
  | _ => .debug

/-- The part of the program that the event comes from. -/
def origin : Event → Text
  | header _ => "calculatrice_chaine::noyau::delimiteurs".toList
  | invalidWord _ | aboveBound _ _ => "calculatrice_chaine::noyau::jetons".toList
  | tokens _ | reversePolish _ | result _ _ => "calculatrice_chaine::noyau::eval".toList
  | failure _ _ | interruptReady => "calculatrice_chaine::console".toList
  | policy _ => "calculatrice_chaine".toList

/-- The event in words. -/
def message : Event → Text
  | header ds => "en-tête: délimiteurs ".toList ++ ds.display
  | invalidWord word => "jeton invalide ".toList ++ Quoted.quote word ++ " compté pour 0".toList
  | aboveBound value bound =>
    Decimal.ofInt value ++ " dépasse la borne ".toList ++ bound.text ++ " : compté pour 0".toList
  | tokens ts => "jetons: ".toList ++ Token.display ts
  | reversePolish ts => "rpn: ".toList ++ Token.display ts
  | result formula value => "résultat: ".toList ++ formula ++ " = ".toList ++ value.text
  | failure entry error => "échec pour ".toList ++ Quoted.quote entry ++ ": ".toList ++ error.name
  | policy p =>
    "politique: négatifs ".toList
      ++ (if p.refusesNegatives then "refusés".toList else "acceptés".toList)
      ++ ", borne ".toList ++ p.bound.text ++ ", délimiteurs ".toList ++ p.delimiters.display
  | interruptReady => "gestionnaire Ctrl+C installé".toList

/-- The event as one line of the log. -/
def logLine (e : Event) : Text :=
  e.level.text ++ " [".toList ++ e.origin ++ "] ".toList ++ e.message ++ ['\n']

end Event

end StringCalculator
