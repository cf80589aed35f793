/-!
# `StringCalculator.Text.Basic` — texts

A text is the list of its characters: what is read is taken off its front, what is written is
appended, and every law about texts is a law about lists.

## Contents
- **`Text`**, with its length in UTF-8 bytes.
- **`Text.spaced`**, **`Text.ofLines`**: pieces divided by single spaces, and lines of output.
- **`Text.dropEndWhile`**: what is left once an end of unwanted characters is taken off.
-/

namespace StringCalculator

/-- A text: its characters, in order. -/
abbrev Text := List Char

namespace Text

/-- The number of bytes of the text in UTF-8. -/
def utf8Length : Text → Nat
  | [] => 0
  | c :: t => c.utf8Size + utf8Length t

@[simp] theorem utf8Length_nil : utf8Length [] = 0 := rfl

@[simp] theorem utf8Length_cons (c : Char) (t : Text) :
    utf8Length (c :: t) = c.utf8Size + utf8Length t := rfl

@[simp] theorem utf8Length_append (s t : Text) :
    utf8Length (s ++ t) = utf8Length s + utf8Length t := by
  induction s with
  | nil => simp
  | cons c s ih => rw [List.cons_append, utf8Length_cons, utf8Length_cons, ih, Nat.add_assoc]

theorem utf8Length_pos {t : Text} (h : t ≠ []) : 0 < t.utf8Length := by
  obtain ⟨c, t, rfl⟩ := List.exists_cons_of_ne_nil h
  exact Nat.add_pos_left c.utf8Size_pos _

/-- A front of a text that is no shorter in bytes is no shorter in characters. -/
theorem length_le_of_utf8Length_le {d d' t : Text} (hd : d <+: t) (hd' : d' <+: t)
    (h : d'.utf8Length ≤ d.utf8Length) : d'.length ≤ d.length := by
  apply Nat.le_of_not_lt
  intro hlonger
  -- otherwise the other front goes on behind this one, and has more bytes
  obtain ⟨rest, rfl⟩ := List.prefix_of_prefix_length_le hd hd' (by omega)
  have hrest : rest ≠ [] := by
    rintro rfl
    simp at hlonger
  have hpos := utf8Length_pos hrest
  rw [utf8Length_append] at h
  omega

/-- The pieces in order, one space between neighbours. -/
def spaced (pieces : List Text) : Text := List.intercalate [' '] pieces

@[simp] theorem spaced_nil : spaced [] = [] := rfl

@[simp] theorem spaced_singleton (piece : Text) : spaced [piece] = piece := by
  simp [spaced]

@[simp] theorem spaced_cons_cons (piece next : Text) (pieces : List Text) :
    spaced (piece :: next :: pieces) = piece ++ ' ' :: spaced (next :: pieces) := by
  simp [spaced, List.intercalate]

/-- The lines in order, each with a line feed behind it. -/
def ofLines (lines : List String) : Text := lines.flatMap fun line => line.toList ++ ['\n']

/-- The text without its longest end of characters that satisfy `p`. -/
def dropEndWhile (p : Char → Bool) (t : Text) : Text := (t.reverse.dropWhile p).reverse

end Text

end StringCalculator
