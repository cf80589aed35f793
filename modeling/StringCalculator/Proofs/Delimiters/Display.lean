import StringCalculator.Proofs.Delimiters.OrderedSet
import StringCalculator.Proofs.Text.Quoted

/-!
# `StringCalculator.Proofs.Delimiters.Display` — a set that is shown is known

A set of delimiters is shown as the line of its quoted delimiters. The line reads back as a list of texts
(`Quoted.ofSpaced?_spaced`), in order, and a set is what its own list becomes (`ofList_toList`). So the line
tells the set, whatever its delimiters contain; and it does not matter which of its characters are written by
number, as long as every one of them has a form that can be read.

## Contents
- **`ofDisplay?`**: the set that a line shows.
- **`shown_set_reads_back`**: it is the one that was written, and no other set is shown like it.
-/

namespace StringCalculator.Delimiters

/-- The set that a line of quoted delimiters shows. -/
def ofDisplay? (t : Text) : Option Delimiters :=
  (Quoted.ofSpaced? t).bind fun items => (ofList items).toOption

/-- A set reads back from its delimiters, in whatever forms their characters are written. -/
theorem ofDisplay?_spaced {ds : Delimiters} {written : List Text}
    (h : List.Forall₂ Quoted.Written ds.toList written) : ofDisplay? (Text.spaced written) = some ds := by
  rw [ofDisplay?, Quoted.ofSpaced?_spaced h, Option.bind_some, ofList_toList]
  rfl

/-- **A set that is shown reads back.** -/
theorem ofDisplay?_display (ds : Delimiters) : ofDisplay? ds.display = some ds := by
  apply ofDisplay?_spaced
  rw [List.forall₂_map_right_iff]
  exact List.forall₂_same.2 fun d _ => Quoted.written_quote d

/-- **A set is known from how it is shown.** The line of its quoted delimiters reads back as the set, its
    order included, and so does any line in which the characters are written in other forms, as long as no
    quote and no backslash stands for itself. So two sets are shown alike only if they are the same set. -/
theorem shown_set_reads_back :
    (∀ ds : Delimiters, ofDisplay? ds.display = some ds)
    ∧ (∀ (ds : Delimiters) (written : List Text), List.Forall₂ Quoted.Written ds.toList written →
        ofDisplay? (Text.spaced written) = some ds)
    ∧ ∀ a b : Delimiters, a.display = b.display ↔ a = b := by
  refine ⟨ofDisplay?_display, fun ds written => ofDisplay?_spaced, fun a b => ⟨fun h => ?_, congrArg display⟩⟩
  have hread := ofDisplay?_display a
  rw [h, ofDisplay?_display b] at hread
  exact (Option.some.inj hread).symm

/-- Delimiters that look like the place between two others, like an escape and like nothing at all, the last of
    them by number where a short form is in use. -/
theorem shown_set_reads_back_misleading :
    let ds : Delimiters := ⟨["\" \"".toList, "\\n".toList, ['\n']], by decide, by decide⟩
    let written := [Quoted.quote "\" \"".toList, Quoted.quote "\\n".toList, "\"\\u\x7ba\x7d\"".toList]
    List.Forall₂ Quoted.Written ds.toList written ∧ ofDisplay? (Text.spaced written) = some ds
    ∧ ds.display = "\"\\\" \\\"\" \"\\\\n\" \"\\n\"".toList := by
  intro ds written
  have hfeed : Quoted.Written ['\n'] "\"\\u\x7ba\x7d\"".toList :=
    ⟨[Quoted.byNumber '\n'], .cons (.number '\n') .nil, by decide⟩
  have hwritten : List.Forall₂ Quoted.Written ds.toList written :=
    .cons (Quoted.written_quote _) (.cons (Quoted.written_quote _) (.cons hfeed .nil))
  exact ⟨hwritten, shown_set_reads_back.2.1 ds written hwritten, by decide +kernel⟩

end StringCalculator.Delimiters
