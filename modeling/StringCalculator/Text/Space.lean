import StringCalculator.Text.Basic
import StringCalculator.Text.Ranges

/-!
# `StringCalculator.Text.Space` — white space

The characters with the Unicode property White_Space. They separate lexemes, make up a blank text,
and are what `trim` takes off both ends.
-/

namespace StringCalculator

/-- The ranges of the Unicode property White_Space. -/
def whiteSpaceRanges : List (Nat × Nat) :=
  [(0x09, 0x0d), (0x20, 0x20), (0x85, 0x85), (0xa0, 0xa0), (0x1680, 0x1680), (0x2000, 0x200a),
    (0x2028, 0x2029), (0x202f, 0x202f), (0x205f, 0x205f), (0x3000, 0x3000)]

/-- The character is white space. -/
def isSpace (c : Char) : Bool := inRanges c.toNat whiteSpaceRanges

namespace Text

/-- Nothing but white space. -/
def isBlank (t : Text) : Bool := t.all isSpace

/-- A character that is no white space stands in no blank text. -/
theorem notMem_of_isBlank {t : Text} {c : Char} (h : t.isBlank) (hc : isSpace c = false) : c ∉ t := by
  intro hmem
  rw [List.all_eq_true.1 h c hmem] at hc
  cases hc

/-- The text without the white space at its two ends. -/
def trim (t : Text) : Text := dropEndWhile isSpace (t.dropWhile isSpace)

/-- The two texts differ at most in the case of ASCII letters. -/
def equalIgnoringCase (s t : Text) : Bool := s.map Char.toLower == t.map Char.toLower

end Text

end StringCalculator
