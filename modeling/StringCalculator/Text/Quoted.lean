import StringCalculator.Text.Basic
import StringCalculator.Text.Unprintable

/-!
# `StringCalculator.Text.Quoted` — quoted texts

A text between double quotes on one line, every character of it visible. A backslash starts each
escape: the quote, the backslash, the line feed, the carriage return, the tab and the null character
have a short form, every other character that would not show is written by its number in
hexadecimal between braces.

## Contents
- **`escape`**: how one character is written between the quotes.
- **`quote`**: the whole text.
-/

namespace StringCalculator.Quoted

/-- A character by its number: the fewest lower-case hexadecimal digits, between braces. -/
def byNumber (c : Char) : Text :=
  ['\\', 'u', '\x7b'] ++ Nat.toDigits 16 c.toNat ++ ['\x7d']

/-- How a character is written between the quotes. -/
def escape (c : Char) : Text :=
  if c = '"' then ['\\', '"']
  else if c = '\\' then ['\\', '\\']
  else if c = '\n' then ['\\', 'n']
  else if c = '\r' then ['\\', 'r']
  else if c = '\t' then ['\\', 't']
  else if c = '\x00' then ['\\', '0']
  else if isUnprintable c || extendsGrapheme c || isIgnorable c then byNumber c
  else [c]

/-- The text between double quotes. -/
def quote (t : Text) : Text := '"' :: t.flatMap escape ++ ['"']

end StringCalculator.Quoted
