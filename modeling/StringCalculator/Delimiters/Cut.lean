import StringCalculator.Delimiters

/-!
# `StringCalculator.Delimiters.Cut` — delimiters as plus signs

A text is cut from left to right into delimiters and single characters: wherever a delimiter begins,
the longest one is cut off whole. With every delimiter written as a plus, numbers between delimiters
are summed by the one grammar of expressions.

## Contents
- **`Piece`**: a delimiter or one other character.
- **`cut`**, with `source_cut`: the pieces put together are the text.
- **`toPlus`**: the text with a plus in place of each delimiter.
-/

namespace StringCalculator.Delimiters

/-- A piece of a text that has been cut at its delimiters. -/
inductive Piece where
  | delimiter (d : Text)
  | character (c : Char)
  deriving DecidableEq, Repr

/-- What the piece was cut from. -/
def Piece.source : Piece → Text
  | delimiter d => d
  | character c => [c]

/-- What is written for the piece. -/
def Piece.image : Piece → Char
  | delimiter _ => '+'
  | character c => c

/-- The pieces of a text, where at each place the first of the patterns that begins there is cut
    off. -/
def cutAt (patterns : List Text) : Text → List Piece
  | [] => []
  | c :: t =>
    match patterns.find? (·.isPrefixOf (c :: t)) with
    | some d => .delimiter d :: cutAt patterns (t.drop (d.length - 1))
    | none => .character c :: cutAt patterns t
termination_by t => t.length
decreasing_by
  · exact Nat.lt_succ_of_le (List.drop_sublist _ _).length_le
  · exact Nat.lt_succ_self _

/-- The pieces of a text: the longest delimiter goes first. -/
def cut (ds : Delimiters) (t : Text) : List Piece := cutAt ds.longestFirst t

/-- The text with a plus in place of each delimiter. -/
def toPlus (ds : Delimiters) (t : Text) : Text := (ds.cut t).map Piece.image

/-- **Nothing is lost.** Put together in order, the pieces are the text again. -/
theorem source_cut (ds : Delimiters) (t : Text) : (ds.cut t).flatMap Piece.source = t := by
  have key : ∀ t : Text, (cutAt ds.longestFirst t).flatMap Piece.source = t := by
    intro t
    fun_induction cutAt ds.longestFirst t with
    | case1 => rfl
    | case2 c t d found ih =>
      have nonempty : d ≠ [] := ne_nil_of_mem (mem_longestFirst.1 (List.mem_of_find?_eq_some found))
      have begins : d.isPrefixOf (c :: t) := by simpa using List.find?_some found
      obtain ⟨rest, split⟩ := List.isPrefixOf_iff_prefix.1 begins
      obtain ⟨x, d, rfl⟩ := List.exists_cons_of_ne_nil nonempty
      obtain ⟨rfl, rfl⟩ := List.cons.inj split
      simpa [Piece.source] using ih
    | case3 c t _ ih => simp [ih, Piece.source]
  exact key t

end StringCalculator.Delimiters
