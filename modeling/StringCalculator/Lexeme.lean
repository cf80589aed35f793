import StringCalculator.Text.Space
import StringCalculator.Token

/-!
# `StringCalculator.Lexeme` — cutting a text into lexemes

A lexeme is a token whose operand is still a word. White space divides lexemes and is dropped, each
operator and parenthesis is a lexeme by itself, and each longest run of other characters is a word.

## Contents
- **`Lexeme.ofChar?`**: the lexeme that one character makes by itself.
- **`isWordChar`**: the characters of words.
- **`lexemes`**: all lexemes of a text in order.
-/

namespace StringCalculator

/-- A token whose operand is a word. -/
abbrev Lexeme := Token Text

/-- The lexeme that a character makes by itself. -/
def Lexeme.ofChar? : Char → Option Lexeme
  | '+' => some (.operator .add)
  | '-' => some (.operator .sub)
  | '*' => some (.operator .mul)
  | '/' => some (.operator .div)
  | '(' => some .lparen
  | ')' => some .rparen
  | _ => none

/-- The character belongs to a word: no white space, and no lexeme by itself. -/
def isWordChar (c : Char) : Bool := !isSpace c && (Lexeme.ofChar? c).isNone

/-- The lexemes of a text in order. -/
def lexemes : Text → List Lexeme
  | [] => []
  | c :: t =>
    if isSpace c then lexemes t
    else
      match Lexeme.ofChar? c with
      | some lexeme => lexeme :: lexemes t
      | none => .operand (c :: t.takeWhile isWordChar) :: lexemes (t.dropWhile isWordChar)
termination_by t => t.length
decreasing_by
  · exact Nat.lt_succ_self _
  · exact Nat.lt_succ_self _
  · exact Nat.lt_succ_of_le (List.dropWhile_sublist _).length_le

/-- White space in front changes nothing. -/
theorem lexemes_cons_of_isSpace {c : Char} (h : isSpace c) (t : Text) :
    lexemes (c :: t) = lexemes t := by
  simp [lexemes, h]

end StringCalculator
