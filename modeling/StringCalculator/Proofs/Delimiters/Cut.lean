import StringCalculator.Delimiters.Cut

/-!
# `StringCalculator.Proofs.Delimiters.Cut` — where a text is cut at delimiters

The delimiters are tried by falling length in bytes, and the first that begins at a place is cut off.
Among texts that begin at one place the one with the most bytes is also the one with the most
characters, so it is the longest delimiter that is cut (`find?_longestFirst`). With it the image of a
text is told from left to right: a character where no delimiter begins, a plus for the longest that does.

So a text is cut into pieces from left to right, and every statement about images goes piece by piece
(`Cutting`). A delimiter may be of any length, so this is no induction over the characters.

A text in which no delimiter but a plus occurs is cut into its characters, so reading delimiters as plus
signs does not change it. In any text the plus signs are the only characters that can be new.

The longest delimiter at a place is told by the members of the set alone, so the order in which they were
mentioned has no part in the image.

## Contents
- **`find?_longestFirst`**: the delimiter that is found is the longest.
- **`begins_cases`**, **`eq_of_longest`**: one longest delimiter begins at a place, or none does.
- **`toPlus_cons`**, **`toPlus_append`**: the image at a place where no delimiter begins, and where one does.
- **`Cutting`**, **`exists_cutting`**: the pieces of a text, by rules.
- **`toPlus_eq_self`**: texts without delimiters; **`mem_toPlus`**: the characters of an image.
- **`toPlus_congr`**: sets with the same members have the same images.
-/

namespace StringCalculator.Delimiters

/-! ## The longest delimiter -/

/-- **The delimiter found is the longest** of those that begin at the place. -/
theorem find?_longestFirst {ds : Delimiters} {t d : Text}
    (h : ds.longestFirst.find? (·.isPrefixOf t) = some d) :
    d ∈ ds ∧ d <+: t ∧ ∀ d' ∈ ds, d' <+: t → d'.length ≤ d.length := by
  obtain ⟨hbegins, before, behind, hsplit, hnone⟩ := List.find?_eq_some_iff_append.1 h
  have hd : d <+: t := List.isPrefixOf_iff_prefix.1 hbegins
  refine ⟨mem_longestFirst.1 (List.mem_of_find?_eq_some h), hd, ?_⟩
  intro d' hmem hd'
  apply Text.length_le_of_utf8Length_le hd hd'
  -- none of those in front begins here, and those behind have no more bytes
  have hsorted := pairwise_longestFirst ds
  have hmem' := mem_longestFirst.2 hmem
  rw [hsplit] at hsorted hmem'
  rcases List.mem_append.1 hmem' with hbefore | hbehind
  · have hfails := hnone d' hbefore
    rw [List.isPrefixOf_iff_prefix.2 hd'] at hfails
    cases hfails
  · rcases List.mem_cons.1 hbehind with rfl | hbehind
    · exact Nat.le_refl _
    · exact (List.pairwise_cons.1 (List.pairwise_append.1 hsorted).2.1).1 d' hbehind

/-- At every place a longest delimiter begins, or none does. -/
theorem begins_cases (ds : Delimiters) (t : Text) :
    (∀ d ∈ ds, ¬d <+: t)
    ∨ ∃ d ∈ ds, ∃ rest, t = d ++ rest ∧ ∀ d' ∈ ds, d' <+: d ++ rest → d'.length ≤ d.length := by
  cases hfind : ds.longestFirst.find? (·.isPrefixOf t) with
  | none =>
    left
    intro d hd hbegins
    exact List.find?_eq_none.1 hfind d (mem_longestFirst.2 hd) (List.isPrefixOf_iff_prefix.2 hbegins)
  | some d =>
    obtain ⟨hd, ⟨rest, rfl⟩, hlongest⟩ := find?_longestFirst hfind
    exact .inr ⟨d, hd, rest, rfl, hlongest⟩

/-- Two delimiters that begin at one place and are both longest there are one. -/
theorem eq_of_longest {ds : Delimiters} {t d d' : Text} (hd : d ∈ ds) (hd' : d' ∈ ds) (hbegins : d <+: t)
    (hbegins' : d' <+: t) (hlongest : ∀ e ∈ ds, e <+: t → e.length ≤ d.length)
    (hlongest' : ∀ e ∈ ds, e <+: t → e.length ≤ d'.length) : d = d' := by
  have hle := hlongest' d hd hbegins
  have hge := hlongest d' hd' hbegins'
  exact (List.prefix_of_prefix_length_le hbegins hbegins' hle).eq_of_length (Nat.le_antisymm hle hge)

/-! ## The image, from left to right -/

theorem toPlus_nil (ds : Delimiters) : ds.toPlus [] = [] := by
  simp [toPlus, cut, cutAt]

/-- Where no delimiter begins, a character stays. -/
theorem toPlus_cons {ds : Delimiters} {c : Char} {t : Text} (h : ∀ d ∈ ds, ¬d <+: c :: t) :
    ds.toPlus (c :: t) = c :: ds.toPlus t := by
  have hnone : ds.longestFirst.find? (·.isPrefixOf (c :: t)) = none := by
    rw [List.find?_eq_none]
    intro d hd hbegins
    exact h d (mem_longestFirst.1 hd) (List.isPrefixOf_iff_prefix.1 hbegins)
  rw [toPlus, cut, cutAt, hnone]
  rfl

/-- Where a delimiter begins and no longer one does, it becomes a plus. -/
theorem toPlus_append {ds : Delimiters} {d t : Text} (hd : d ∈ ds)
    (h : ∀ d' ∈ ds, d' <+: d ++ t → d'.length ≤ d.length) :
    ds.toPlus (d ++ t) = '+' :: ds.toPlus t := by
  have hfound : ds.longestFirst.find? (·.isPrefixOf (d ++ t)) = some d := by
    cases hfind : ds.longestFirst.find? (·.isPrefixOf (d ++ t)) with
    | none =>
      have hfails := List.find?_eq_none.1 hfind d (mem_longestFirst.2 hd)
      exact absurd (List.isPrefixOf_iff_prefix.2 (List.prefix_append d t)) hfails
    | some d' =>
      obtain ⟨hmem, hbegins, hlongest⟩ := find?_longestFirst hfind
      rw [eq_of_longest hd hmem (List.prefix_append d t) hbegins h hlongest]
  obtain ⟨c, d, rfl⟩ := List.exists_cons_of_ne_nil (ne_nil_of_mem hd)
  rw [List.cons_append] at hfound ⊢
  rw [toPlus, cut, cutAt, hfound]
  simp [Piece.image, toPlus, cut]

/-! ## Piece by piece -/

/-- **The pieces of a text**, by rules. The longest of the delimiters that begin at a place is a piece;
    where none begins, the one character is. -/
inductive Cutting (ds : Delimiters) : Text → List Text → Prop
  | nil : Cutting ds [] []
  | delimiter {d t : Text} {pieces : List Text} : d ∈ ds →
      (∀ d' ∈ ds, d' <+: d ++ t → d'.length ≤ d.length) → Cutting ds t pieces →
      Cutting ds (d ++ t) (d :: pieces)
  | character {c : Char} {t : Text} {pieces : List Text} : (∀ d ∈ ds, ¬d <+: c :: t) →
      Cutting ds t pieces → Cutting ds (c :: t) ([c] :: pieces)

/-- Every text is cut into pieces. -/
theorem exists_cutting (ds : Delimiters) (t : Text) : ∃ pieces, ds.Cutting t pieces := by
  -- behind a delimiter the rest is shorter, but it is no tail: the induction is on the length
  induction hn : t.length using Nat.strongRecOn generalizing t with
  | ind n ih =>
    subst hn
    rcases ds.begins_cases t with hnone | ⟨d, hd, rest, rfl, hlongest⟩
    · cases t with
      | nil => exact ⟨[], .nil⟩
      | cons c t =>
        obtain ⟨pieces, hcut⟩ := ih t.length (Nat.lt_succ_self _) t rfl
        exact ⟨[c] :: pieces, .character hnone hcut⟩
    · have hshorter : rest.length < (d ++ rest).length := by
        have hpos := List.length_pos_iff.2 (ne_nil_of_mem hd)
        rw [List.length_append]
        omega
      obtain ⟨pieces, hcut⟩ := ih _ hshorter rest rfl
      exact ⟨d :: pieces, .delimiter hd hlongest hcut⟩

/-- A text in which plus signs are the only delimiters stays as it is. -/
theorem toPlus_eq_self_of_plus {ds : Delimiters} {t : Text} (h : ∀ d ∈ ds, d <:+: t → d = ['+']) :
    ds.toPlus t = t := by
  obtain ⟨pieces, hcut⟩ := ds.exists_cutting t
  induction hcut with
  | nil => exact toPlus_nil ds
  | @delimiter d t pieces hd hlongest _ ih =>
    obtain rfl := h d hd (List.prefix_append d t).isInfix
    have hrest : ∀ d' ∈ ds, d' <:+: t → d' = ['+'] := by
      intro d' hd' hoccurs
      exact h d' hd' (hoccurs.trans (List.suffix_append _ t).isInfix)
    rw [toPlus_append hd hlongest, ih hrest]
    rfl
  | @character c t pieces hnone _ ih =>
    have hrest : ∀ d ∈ ds, d <:+: t → d = ['+'] := by
      intro d hd hoccurs
      exact h d hd (hoccurs.trans (List.suffix_cons c t).isInfix)
    rw [toPlus_cons hnone, ih hrest]

/-- **A text without delimiters stays as it is.** -/
theorem toPlus_eq_self {ds : Delimiters} {t : Text} (h : ∀ d ∈ ds, ¬d <:+: t) : ds.toPlus t = t :=
  toPlus_eq_self_of_plus fun d hd hoccurs => absurd hoccurs (h d hd)

@[simp] theorem toPlus_empty (t : Text) : empty.toPlus t = t := by
  apply toPlus_eq_self
  intro d hd
  cases hd

/-- The standard delimiters occur in no text without a comma and a line feed. -/
theorem standard_not_infix {t : Text} (hcomma : ',' ∉ t) (hfeed : '\n' ∉ t) : ∀ d ∈ standard, ¬d <:+: t := by
  intro d hd hoccurs
  have hd : d ∈ [[','], ['\n']] := hd
  simp only [List.mem_cons, List.not_mem_nil, or_false] at hd
  rcases hd with rfl | rfl
  · exact hcomma (hoccurs.mem List.mem_cons_self)
  · exact hfeed (hoccurs.mem List.mem_cons_self)

/-- A character that is written for a piece is a plus or stands in the text. -/
theorem mem_toPlus {ds : Delimiters} {t : Text} {c : Char} (h : c ∈ ds.toPlus t) : c = '+' ∨ c ∈ t := by
  obtain ⟨piece, hpiece, rfl⟩ := List.mem_map.1 h
  cases piece with
  | delimiter d => exact .inl rfl
  | character c =>
    right
    rw [← ds.source_cut t]
    exact List.mem_flatMap.2 ⟨_, hpiece, List.mem_singleton.2 rfl⟩

/-- **The order of delimiters does not matter.** Sets with the same members have the same images. -/
theorem toPlus_congr {ds ds' : Delimiters} (h : ∀ d, d ∈ ds ↔ d ∈ ds') (t : Text) :
    ds.toPlus t = ds'.toPlus t := by
  obtain ⟨pieces, hcut⟩ := ds.exists_cutting t
  induction hcut with
  | nil => rw [toPlus_nil, toPlus_nil]
  | @delimiter d t pieces hd hlongest _ ih =>
    have hlongest' : ∀ d' ∈ ds', d' <+: d ++ t → d'.length ≤ d.length := by
      intro d' hd'
      exact hlongest d' ((h d').2 hd')
    rw [toPlus_append hd hlongest, toPlus_append ((h d).1 hd) hlongest', ih]
  | @character c t pieces hnone _ ih =>
    have hnone' : ∀ d ∈ ds', ¬d <+: c :: t := by
      intro d hd
      exact hnone d ((h d).2 hd)
    rw [toPlus_cons hnone, toPlus_cons hnone', ih]

end StringCalculator.Delimiters
