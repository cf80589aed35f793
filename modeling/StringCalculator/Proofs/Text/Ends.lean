import Mathlib.Data.List.DropRight
import StringCalculator.Text.Space

/-!
# `StringCalculator.Proofs.Text.Ends` — what is taken off the ends of a text

Characters that are not wanted are taken off the end of an entry before an operator, off the end of a line,
and, as white space, off both ends of a line that may say `exit`. Each time what is left can be told by what
stood around it: nothing but unwanted characters, as many as there were.

## Contents
- **`Text.dropEndWhile_eq_iff`**: what is left once one end is taken off.
- **`Text.trim_eq_iff`**: what is left once the white space at both ends is.
-/

namespace StringCalculator.Text

/-- **What is left** is the front of the text behind which nothing but unwanted characters stands, and that
    does not end with one. -/
theorem dropEndWhile_eq_iff {p : Char → Bool} {t s : Text} :
    dropEndWhile p t = s
      ↔ (∃ ends, t = s ++ ends ∧ ∀ c ∈ ends, p c) ∧ ∀ c, s.getLast? = some c → p c = false := by
  change t.rdropWhile p = s ↔ _
  constructor
  · rintro rfl
    refine ⟨⟨t.rtakeWhile p, List.rdropWhile_append_rtakeWhile.symm, fun c => List.mem_rtakeWhile_imp⟩, ?_⟩
    intro c hc
    have hne : t.rdropWhile p ≠ [] := List.ne_nil_of_mem (List.mem_of_getLast? hc)
    rw [List.getLast?_eq_some_getLast hne, Option.some.injEq] at hc
    exact eq_false_of_ne_true (hc ▸ List.rdropWhile_last_not p t hne)
  · rintro ⟨⟨ends, rfl, hends⟩, hlast⟩
    -- the unwanted characters go one by one, the last one first
    induction ends using List.reverseRecOn with
    | nil =>
      rw [List.append_nil, List.rdropWhile_eq_self_iff]
      intro hne
      rw [hlast _ (List.getLast?_eq_some_getLast hne)]
      exact Bool.false_ne_true
    | append_singleton ends c ih =>
      rw [← List.append_assoc, List.rdropWhile_concat_pos _ _ _ (hends c (by simp))]
      exact ih fun c hc => hends c (List.mem_append_left _ hc)

/-- **What is left of a text** has blank text around it, and white space at neither end. -/
theorem trim_eq_iff {t s : Text} :
    t.trim = s
      ↔ (∃ a b, t = a ++ s ++ b ∧ a.isBlank ∧ b.isBlank)
        ∧ (∀ c, s.head? = some c → isSpace c = false) ∧ ∀ c, s.getLast? = some c → isSpace c = false := by
  constructor
  · intro h
    obtain ⟨⟨b, hfront, hb⟩, hlast⟩ := dropEndWhile_eq_iff.1 h
    have hsplit : t = t.takeWhile isSpace ++ s ++ b := by
      rw [List.append_assoc, ← hfront, List.takeWhile_append_dropWhile]
    refine ⟨⟨t.takeWhile isSpace, b, hsplit, List.all_takeWhile, List.all_eq_true.2 hb⟩, ?_, hlast⟩
    intro c hc
    have hkept := List.head?_dropWhile_not isSpace t
    rw [hfront, List.head?_append, hc] at hkept
    exact hkept
  · rintro ⟨⟨a, b, rfl, ha, hb⟩, hhead, hlast⟩
    apply dropEndWhile_eq_iff.2
    refine ⟨?_, hlast⟩
    rw [List.append_assoc, List.dropWhile_append_of_pos (List.all_eq_true.1 ha)]
    cases s with
    | nil =>
      -- nothing but white space: all of it goes from the front
      have hnone : (b ++ []).dropWhile isSpace = [] :=
        List.dropWhile_append_of_pos (List.all_eq_true.1 hb)
      rw [List.append_nil] at hnone
      exact ⟨[], hnone, by simp⟩
    | cons c s =>
      have hc : isSpace c = false := hhead c rfl
      refine ⟨b, ?_, List.all_eq_true.1 hb⟩
      rw [List.cons_append, List.dropWhile_cons, if_neg (by simp [hc])]

end StringCalculator.Text
