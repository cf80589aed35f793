import StringCalculator.Proofs.Delimiters.Cut

/-!
# `StringCalculator.Proofs.Delimiters.Joined` — pieces joined by delimiters

A text that is made of pieces with a delimiter between neighbours is cut into these pieces again if no
character of a delimiter stands in a piece: inside a piece no delimiter begins, and at its end the one
that was written is the longest that begins there, since a longer one would reach into the next piece.
So its image is the same pieces, joined by plus signs.

Where a piece may be empty, a delimiter could go on with the next delimiter instead. There the
delimiters have to be single characters.

## Contents
- **`Joined`**: the texts made of the given pieces.
- **`Delimiters.toPlus_joined`**: their image.
-/

namespace StringCalculator

/-- The text consists of the pieces, with one of the separators between any two neighbours. -/
inductive Joined (separators : List Text) : List Text → Text → Prop
  | single (s : Text) : Joined separators [s] s
  | cons {ss : List Text} {t : Text} (s d : Text) : d ∈ separators → Joined separators ss t →
      Joined separators (s :: ss) (s ++ d ++ t)

namespace Joined

variable {separators : List Text} {ss : List Text} {t : Text}

theorem ne_nil (h : Joined separators ss t) : ss ≠ [] := by
  cases h <;> exact List.cons_ne_nil _ _

/-- The first piece is the beginning of the text. -/
theorem exists_eq_append (h : Joined separators ss t) : ∃ s ∈ ss, ∃ rest, t = s ++ rest := by
  cases h with
  | single s => exact ⟨t, List.mem_cons_self, [], (List.append_nil t).symm⟩
  | cons s d hd htail => exact ⟨s, List.mem_cons_self, _, List.append_assoc _ _ _⟩

theorem mono {separators' : List Text} (h : Joined separators ss t)
    (hsub : ∀ d ∈ separators, d ∈ separators') : Joined separators' ss t := by
  induction h with
  | single s => exact .single s
  | cons s d hd _ ih => exact .cons s d (hsub d hd) ih

/-- Nothing stands in the text but the pieces and separators. -/
theorem mem {c : Char} (h : Joined separators ss t) (hc : c ∈ t) :
    (∃ s ∈ ss, c ∈ s) ∨ ∃ d ∈ separators, c ∈ d := by
  induction h with
  | single s => exact .inl ⟨s, List.mem_cons_self, hc⟩
  | cons s d hd _ ih =>
    rcases List.mem_append.1 hc with hc | hc
    · rcases List.mem_append.1 hc with hc | hc
      · exact .inl ⟨s, List.mem_cons_self, hc⟩
      · exact .inr ⟨d, hd, hc⟩
    · refine (ih hc).imp_left ?_
      rintro ⟨s', hs', hc⟩
      exact ⟨s', List.mem_cons_of_mem s hs', hc⟩

end Joined

namespace Delimiters

variable {ds : Delimiters}

/-- Text without any character of a delimiter is copied. -/
theorem toPlus_append_of_free {s : Text} (hfree : ∀ d ∈ ds, ∀ c ∈ d, c ∉ s) (t : Text) :
    ds.toPlus (s ++ t) = s ++ ds.toPlus t := by
  induction s with
  | nil => rfl
  | cons c s ih =>
    have hbegins : ∀ d ∈ ds, ¬d <+: c :: (s ++ t) := by
      intro d hd hfront
      obtain ⟨c', d', rfl⟩ := List.exists_cons_of_ne_nil (ne_nil_of_mem hd)
      obtain ⟨rfl, -⟩ := List.cons_prefix_cons.1 hfront
      exact hfree _ hd c' List.mem_cons_self List.mem_cons_self
    rw [List.cons_append, List.cons_append, toPlus_cons hbegins]
    rw [ih fun d hd c' hc' hmem => hfree d hd c' hc' (List.mem_cons_of_mem c hmem)]

/-- No delimiter reaches into text that has none of its characters. -/
theorem length_le_of_prefix_append {d d' t : Text} {c : Char} (h : d' <+: d ++ c :: t) (hc : c ∉ d') :
    d'.length ≤ d.length := by
  apply Nat.le_of_not_lt
  intro hlonger
  have hfront : d ++ [c] <+: d' := by
    apply List.prefix_of_prefix_length_le _ h
    · rw [List.length_append]
      exact hlonger
    · exact ⟨t, by simp⟩
  exact hc (hfront.subset (by simp))

/-- **Joined pieces are joined by plus signs in the image**, if no character of a delimiter stands in a
    piece, and no piece is empty unless the delimiters are single characters. -/
theorem toPlus_joined {ss : List Text} {t : Text} (h : Joined ds.toList ss t)
    (hfree : ∀ s ∈ ss, ∀ d ∈ ds, ∀ c ∈ d, c ∉ s)
    (hends : (∀ s ∈ ss, s ≠ []) ∨ ∀ d ∈ ds, d.length = 1) : Joined [['+']] ss (ds.toPlus t) := by
  induction h with
  | single s =>
    have himage : ds.toPlus (s ++ []) = s ++ ds.toPlus [] :=
      toPlus_append_of_free (hfree s List.mem_cons_self) []
    rw [List.append_nil, toPlus_nil, List.append_nil] at himage
    rw [himage]
    exact .single s
  | @cons ss t s d hd htail ih =>
    have htailfree : ∀ s' ∈ ss, ∀ d' ∈ ds, ∀ c ∈ d', c ∉ s' :=
      fun s' hs' => hfree s' (List.mem_cons_of_mem s hs')
    -- the delimiter that was written is the longest at its place
    have hlongest : ∀ d' ∈ ds, d' <+: d ++ t → d'.length ≤ d.length := by
      intro d' hd' hfront
      rcases hends with hpieces | hsingle
      · obtain ⟨s', hs', rest, rfl⟩ := htail.exists_eq_append
        obtain ⟨c, s', rfl⟩ := List.exists_cons_of_ne_nil (hpieces s' (List.mem_cons_of_mem s hs'))
        apply length_le_of_prefix_append hfront
        intro hc
        exact htailfree _ hs' d' hd' c hc List.mem_cons_self
      · exact Nat.le_of_eq ((hsingle d' hd').trans (hsingle d hd).symm)
    have hrest : Joined [['+']] ss (ds.toPlus t) := by
      apply ih htailfree
      exact hends.imp_left fun hpieces s' hs' => hpieces s' (List.mem_cons_of_mem s hs')
    rw [List.append_assoc, toPlus_append_of_free (hfree s List.mem_cons_self), toPlus_append hd hlongest]
    have himage := Joined.cons s ['+'] List.mem_cons_self hrest
    rwa [List.append_assoc] at himage

end Delimiters

end StringCalculator
