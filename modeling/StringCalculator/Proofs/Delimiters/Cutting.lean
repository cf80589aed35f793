import StringCalculator.Proofs.Delimiters.Cut

/-!
# `StringCalculator.Proofs.Delimiters.Cutting` — the one cutting of a text

Cutting from left to right, the longest delimiter first, leaves no choice: two cuttings of a text agree in
their first piece, hence in the rest, hence in all pieces. So the image of a text can be told by its
cutting. Each character of the text lies in one piece, which is copied or replaced as a whole.

What was written for a delimiter keeps apart what stood on its two sides. A stretch of an image without a
plus is therefore a stretch of the text, and in the text nothing begins at its place that could be cut off.
So delimiters without a plus are gone from the image, and a second replacement finds nothing more to do.

## Contents
- **`Cutting.unique`**, **`Cutting.toPlus_eq`**: the pieces are determined, and they determine the image.
- **`toPlus_leftmost_longest`**: the image of a text by its one cutting.
- **`prefix_of_prefix_toPlus`**: stretches without a plus.
- **`toPlus_leaves_no_delimiter`**: no delimiter but a plus is left in an image.
-/

namespace StringCalculator.Delimiters

variable {ds : Delimiters} {t : Text}

/-! ## Leftmost and longest -/

namespace Cutting

variable {pieces pieces' : List Text}

/-- The pieces in order are the text. -/
theorem flatten_eq (h : ds.Cutting t pieces) : pieces.flatten = t := by
  induction h with
  | nil => rfl
  | delimiter _ _ _ ih => rw [List.flatten_cons, ih]
  | character _ _ ih => rw [List.flatten_cons, ih, List.singleton_append]

/-- **There is no choice.** A text has one cutting. -/
theorem unique (h : ds.Cutting t pieces) (h' : ds.Cutting t pieces') : pieces = pieces' := by
  induction h generalizing pieces' with
  | nil =>
    generalize hempty : ([] : Text) = s at h'
    cases h' with
    | nil => rfl
    | delimiter hd => exact absurd (List.append_eq_nil_iff.1 hempty.symm).1 (ne_nil_of_mem hd)
    | character => cases hempty
  | @delimiter d t pieces hd hlongest _ ih =>
    generalize htext : d ++ t = s at h' hlongest
    have hbegins : d <+: s := ⟨t, htext⟩
    cases h' with
    | nil => exact absurd (List.append_eq_nil_iff.1 htext).1 (ne_nil_of_mem hd)
    | delimiter hd' hlongest' hrest' =>
      obtain rfl := eq_of_longest hd hd' hbegins (List.prefix_append _ _) hlongest hlongest'
      obtain rfl := List.append_cancel_left htext
      rw [ih hrest']
    | character hnone => exact absurd hbegins (hnone d hd)
  | @character c t pieces hnone _ ih =>
    generalize htext : c :: t = s at h' hnone
    cases h' with
    | nil => cases htext
    | delimiter hd => exact absurd (List.prefix_append _ _) (hnone _ hd)
    | character _ hrest' =>
      obtain ⟨rfl, rfl⟩ := List.cons.inj htext
      rw [ih hrest']

/-- The image has a plus for each delimiter and every other piece as it is. -/
theorem toPlus_eq (h : ds.Cutting t pieces) :
    ds.toPlus t = pieces.flatMap fun piece => if piece ∈ ds.toList then ['+'] else piece := by
  induction h with
  | nil => exact toPlus_nil ds
  | delimiter hd hlongest _ ih =>
    rw [toPlus_append hd hlongest, ih, List.flatMap_cons, if_pos (mem_def.1 hd)]
    rfl
  | @character c t pieces hnone _ ih =>
    -- the character is no delimiter, since that would begin here
    have hother : [c] ∉ ds.toList := fun hmem => hnone [c] hmem ⟨t, rfl⟩
    rw [toPlus_cons hnone, ih, List.flatMap_cons, if_neg hother]
    rfl

end Cutting

/-- **Delimiters are replaced leftmost and longest.** A text has exactly one cutting into pieces of which
    each is the longest delimiter that begins with the remaining text, in characters, or else a single
    character. Put together the pieces are the text, so no character is lost or counted twice; and the image
    has a plus in place of each delimiter and the character itself for every other piece. -/
theorem toPlus_leftmost_longest (ds : Delimiters) (t : Text) :
    ∃ pieces, ds.Cutting t pieces ∧ (∀ pieces', ds.Cutting t pieces' → pieces' = pieces)
      ∧ pieces.flatten = t
      ∧ ds.toPlus t = pieces.flatMap fun piece => if piece ∈ ds.toList then ['+'] else piece := by
  obtain ⟨pieces, hcut⟩ := ds.exists_cutting t
  exact ⟨pieces, hcut, fun _ hcut' => hcut'.unique hcut, hcut.flatten_eq, hcut.toPlus_eq⟩

/-- Three stars are one delimiter, not three, and the two behind them are two. -/
example : toPlus ⟨[['*'], "***".toList], by decide, by decide⟩ "1*****2*3".toList = "1+++2+3".toList := by
  decide +kernel

/-! ## What is left in an image -/

/-- **Nothing is brought together.** What an image begins with, up to its first plus, the text begins
    with. -/
theorem prefix_of_prefix_toPlus {u : Text} (hplus : '+' ∉ u) (h : u <+: ds.toPlus t) : u <+: t := by
  obtain ⟨pieces, hcut⟩ := ds.exists_cutting t
  induction hcut generalizing u with
  | nil => rwa [toPlus_nil] at h
  | delimiter hd hlongest _ _ =>
    rw [toPlus_append hd hlongest] at h
    rcases List.prefix_cons_iff.1 h with rfl | ⟨u, rfl, -⟩
    · exact List.nil_prefix
    · exact absurd List.mem_cons_self hplus
  | character hnone _ ih =>
    rw [toPlus_cons hnone] at h
    rcases List.prefix_cons_iff.1 h with rfl | ⟨u, rfl, htail⟩
    · exact List.nil_prefix
    · have hbegins := ih (fun hmem => hplus (List.mem_cons_of_mem _ hmem)) htail
      exact List.cons_prefix_cons.2 ⟨rfl, hbegins⟩

/-- A delimiter without a plus occurs in no image. -/
theorem not_infix_toPlus {d : Text} (hd : d ∈ ds) (hplus : '+' ∉ d) (t : Text) : ¬d <:+: ds.toPlus t := by
  obtain ⟨pieces, hcut⟩ := ds.exists_cutting t
  intro hoccurs
  induction hcut with
  | nil =>
    rw [toPlus_nil, List.infix_nil] at hoccurs
    exact ne_nil_of_mem hd hoccurs
  | delimiter hd' hlongest _ ih =>
    rw [toPlus_append hd' hlongest, List.infix_cons_iff] at hoccurs
    rcases hoccurs with hbegins | hlater
    · rcases List.prefix_cons_iff.1 hbegins with rfl | ⟨d, rfl, -⟩
      · exact ne_nil_of_mem hd rfl
      · exact hplus List.mem_cons_self
    · exact ih hlater
  | character hnone _ ih =>
    -- had it begun with this character, it would have been cut off here
    have hnot : ¬d <+: ds.toPlus _ := fun hbegins => hnone d hd (prefix_of_prefix_toPlus hplus hbegins)
    rw [toPlus_cons hnone] at hnot hoccurs
    exact ih ((List.infix_cons_iff.1 hoccurs).resolve_left hnot)

/-- **No delimiter is left behind.** If none of the delimiters contains a plus, but for the plus itself,
    then the image of a text contains no delimiter but the plus, and it is its own image. -/
theorem toPlus_leaves_no_delimiter (h : ∀ d ∈ ds, '+' ∈ d → d = ['+']) (t : Text) :
    (∀ d ∈ ds, d ≠ ['+'] → ¬d <:+: ds.toPlus t) ∧ ds.toPlus (ds.toPlus t) = ds.toPlus t := by
  have hgone : ∀ d ∈ ds, d ≠ ['+'] → ¬d <:+: ds.toPlus t := by
    intro d hd hne
    exact not_infix_toPlus hd (fun hplus => hne (h d hd hplus)) t
  refine ⟨hgone, toPlus_eq_self_of_plus ?_⟩
  intro d hd hoccurs
  apply Classical.byContradiction
  intro hne
  exact hgone d hd hne hoccurs

/-- Without the plus the two ends of `aabb` would make one more delimiter, and the plus of the text is one
    itself. -/
theorem toPlus_leaves_no_delimiter_nested :
    ∃ ds : Delimiters, ds.toList = ["ab".toList, ['+'], "bb".toList]
      ∧ (∀ d ∈ ds, '+' ∈ d → d = ['+']) ∧ ds.toPlus "aabb+b".toList = "a+b+b".toList
      ∧ (∀ d ∈ ds, d ≠ ['+'] → ¬d <:+: "a+b+b".toList) ∧ ds.toPlus "a+b+b".toList = "a+b+b".toList := by
  let ds : Delimiters := ⟨["ab".toList, ['+'], "bb".toList], by decide, by decide⟩
  have hplus : ∀ d ∈ ds.toList, '+' ∈ d → d = ['+'] := by decide
  have himage : ds.toPlus "aabb+b".toList = "a+b+b".toList := by decide +kernel
  have hleft := toPlus_leaves_no_delimiter hplus "aabb+b".toList
  rw [himage] at hleft
  exact ⟨ds, rfl, hplus, himage, hleft⟩

end StringCalculator.Delimiters
