import StringCalculator.Delimiters.Cut
import StringCalculator.Lexeme

/-!
# `StringCalculator.Scan` — reading lexemes as an expression

Lexemes are read from left to right by an automaton that waits for an operand or for an operator.
Where an operand is expected a plus is dropped and a minus belongs to the next number. The scan ends
with the lexemes or at the first that stands at a wrong place; what was read until then is kept.

## Contents
- **`Reading`**: a word read as an operand, with its sign, its exact value, and the number that
  counts under a bound.
- **`Expecting`, `step`**: the automaton.
- **`Scan`**: what a run of the automaton yields; `Scan.ofText` runs it on a text.
- **`Scan.negatives`, `Scan.tokens`**: the distinct negative values, and the tokens under a bound,
  with a zero where a last operand is missing.
-/

namespace StringCalculator

/-! ## Readings -/

/-- A word read as an operand, and whether a minus belongs to it. -/
structure Reading where
  word : Text
  negated : Bool
  deriving DecidableEq, Repr

namespace Reading

/-- The word's value; a word that is no numeral counts as zero. -/
def magnitude (r : Reading) : Nat :=
  if Decimal.isNumeral r.word then Decimal.toNat r.word else 0

/-- The exact signed value. -/
def value (r : Reading) : Int := if r.negated then -(r.magnitude : Int) else r.magnitude

/-- The magnitude lies above the bound. -/
def exceeds (bound : Number) (r : Reading) : Bool := bound.toInt < r.magnitude

/-- The number that counts: zero if the magnitude lies above the bound. -/
def number (bound : Number) (r : Reading) : Number :=
  if r.exceeds bound then 0 else Int64.ofInt r.value

theorem natAbs_value (r : Reading) : r.value.natAbs = r.magnitude := by
  unfold value
  split <;> simp

/-- **Within the bound nothing is lost.** There the number that counts has the exact value. -/
theorem toInt_number {bound : Number} {r : Reading} (h : r.exceeds bound = false) :
    (r.number bound).toInt = r.value := by
  have above : (r.magnitude : Int) ≤ bound.toInt := by simpa [exceeds] using h
  have range := bound.toInt_lt
  have abs := r.natAbs_value
  rw [number, h]
  exact Int64.toInt_ofInt_of_le (by omega) (by omega)

end Reading

/-! ## The automaton -/

/-- What the scan waits for: an operand, perhaps behind a minus, or an operator. -/
inductive Expecting where
  | operand (minus : Bool)
  | operator
  deriving DecidableEq, Repr

/-- Reads one lexeme: the token it makes, if any, and what is expected behind it. -/
def Expecting.step :
    Expecting → Lexeme → Except ExpressionFault (Option (Token Reading) × Expecting)
  | operand minus, .operand word => .ok (some (.operand ⟨word, minus⟩), operator)
  | operand minus, .operator .add => .ok (none, operand minus)
  | operand false, .operator .sub => .ok (none, operand true)
  | operand true, .operator .sub => .error .repeatedMinus
  | operand _, .operator o => .error (.operatorForOperand o)
  | operand false, .lparen => .ok (some .lparen, operand false)
  | operand true, .lparen => .error .minusWithoutNumber
  | operand _, .rparen => .error .rparenForOperand
  | operator, .operand word => .error (.operandForOperator word)
  | operator, .operator o => .ok (some (.operator o), operand false)
  | operator, .lparen => .error .lparenForOperator
  | operator, .rparen => .ok (some .rparen, operator)

/-- What a scan yields: the tokens read, and the fault that ended it early. -/
structure Scan where
  read : List (Token Reading) := []
  fault? : Option ExpressionFault := none
  deriving DecidableEq, Repr

namespace Scan

/-- The scan with one more token in front. -/
def cons? (token? : Option (Token Reading)) (s : Scan) : Scan :=
  { s with read := token?.toList ++ s.read }

/-- Runs the automaton to the end of the lexemes or to the first fault. -/
def run : Expecting → List Lexeme → Scan
  | _, [] => {}
  | expecting, lexeme :: lexemes =>
    match expecting.step lexeme with
    | .error fault => { fault? := some fault }
    | .ok (token?, next) => (run next lexemes).cons? token?

/-- Scans an expression, its delimiters read as plus signs. -/
def ofText (ds : Delimiters) (t : Text) : Scan :=
  run (.operand false) (lexemes (ds.toPlus t))

/-! ## What a scan has read -/

/-- The words read as operands, in order. -/
def readings (s : Scan) : List Reading := s.read.filterMap Token.operand?

/-- The distinct negative values in order of first appearance; no bound applies. -/
def negatives (s : Scan) : List Int :=
  ((s.readings.map Reading.value).filter (· < 0)).eraseDups

/-- The tokens, with a zero behind a last operator. -/
def withFinalZero (ts : List (Token Number)) : List (Token Number) :=
  if ts.getLast?.any Token.isOperator then ts ++ [.operand 0] else ts

/-- The tokens with the numbers that count under the bound. -/
def tokens (bound : Number) (s : Scan) : List (Token Number) :=
  withFinalZero (s.read.map (Token.map (Reading.number bound)))

end Scan

end StringCalculator
