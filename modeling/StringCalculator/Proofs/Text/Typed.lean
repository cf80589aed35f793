import Mathlib.Data.List.Infix
import StringCalculator.Text.Typed

/-!
# `StringCalculator.Proofs.Text.Typed` — decoding a typed text loses nothing

A line feed is typed as a pair of characters, and decoding takes every pair away. What it leaves has no pair:
two characters that come to stand side by side stood side by side before, and where a pair was a line feed
stands between its neighbours. So decoding twice is decoding once.

Where line feeds stand for nothing but pairs, each one tells where a pair was, so the typed text can be written
down again. And a text may be decoded piece by piece, unless a pair is cut; then its halves are left side by
side, which no decoded text shows.

## Contents
- **`encode`**: the text as it is typed.
- **`decode_append`**: decoding piece by piece.
- **`not_pair_infix_decode`**, **`encode_decode`**: no pair is left, and none is lost.
- **`decode_lossless`**: all of these.
-/

namespace StringCalculator.Typed

/-- The text as it is typed: each line feed is a backslash with an `n` behind it. -/
def encode (t : Text) : Text := t.flatMap fun c => if c = '\n' then ['\\', 'n'] else [c]

/-- A pair is cut: one half ends the first text, the other half begins the second. -/
def CutsPair (a b : Text) : Prop := a.getLast? = some '\\' ∧ b.head? = some 'n'

/-! ## Piece by piece -/

/-- A character that does not begin a pair is copied. -/
theorem decode_cons {c : Char} {t : Text} (h : ¬CutsPair [c] t) : decode (c :: t) = c :: decode t := by
  rw [decode]
  rintro t rfl rfl
  exact h ⟨rfl, rfl⟩

/-- **A text is decoded piece by piece**, if no pair is cut. -/
theorem decode_append {a b : Text} (h : ¬CutsPair a b) : decode (a ++ b) = decode a ++ decode b := by
  fun_induction decode a with
  | case1 t ih =>
    have htail : ¬CutsPair t b := by
      rintro ⟨hlast, hhead⟩
      exact h ⟨by simp [List.getLast?_cons, hlast], hhead⟩
    show '\n' :: decode (t ++ b) = _
    rw [ih htail, List.cons_append]
  | case2 c t hpair ih =>
    cases t with
    | nil => exact decode_cons h
    | cons d t =>
      have hcopied : ¬CutsPair [c] (d :: (t ++ b)) := by
        rintro ⟨hc, hd⟩
        exact hpair t (Option.some.inj hc) (congrArg (· :: t) (Option.some.inj hd))
      have htail : ¬CutsPair (d :: t) b := by
        rintro ⟨hlast, hhead⟩
        exact h ⟨by rwa [List.getLast?_cons_cons], hhead⟩
      show decode (c :: (d :: (t ++ b))) = _
      rw [decode_cons hcopied, List.cons_append, ← ih htail, List.cons_append]
  | case3 => rfl

/-- Nothing but an `n` at the beginning is decoded to one. -/
theorem head?_of_head?_decode {t : Text} (h : (decode t).head? = some 'n') : t.head? = some 'n' := by
  cases t with
  | nil => exact h
  | cons c t =>
    by_cases hpair : CutsPair [c] t
    · -- a pair becomes a line feed, which is no `n`
      obtain ⟨hc, ht⟩ := hpair
      obtain ⟨t, rfl⟩ := List.head?_eq_some_iff.1 ht
      obtain rfl := Option.some.inj hc
      cases h
    · rwa [decode_cons hpair] at h

/-! ## No pair is left -/

/-- **No pair is left** in a decoded text. -/
theorem not_pair_infix_decode (t : Text) : ¬['\\', 'n'] <:+: decode t := by
  fun_induction decode t with
  | case1 t ih =>
    rw [List.infix_cons_iff]
    rintro (hfirst | hlater)
    · exact absurd (List.cons_prefix_cons.1 hfirst).1 (by decide)
    · exact ih hlater
  | case2 c t hpair ih =>
    rw [List.infix_cons_iff]
    rintro (hfirst | hlater)
    · -- both halves are copied, so they were a pair
      obtain ⟨hc, rest, hrest⟩ := List.cons_prefix_cons.1 hfirst
      have hn : t.head? = some 'n' := head?_of_head?_decode (by rw [← hrest]; rfl)
      obtain ⟨t', rfl⟩ := List.head?_eq_some_iff.1 hn
      exact hpair t' hc.symm rfl
    · exact ih hlater
  | case3 => simp

/-- A text without a pair means itself. -/
theorem decode_eq_self_of_not_pair_infix {t : Text} (h : ¬['\\', 'n'] <:+: t) : decode t = t := by
  fun_induction decode t with
  | case1 t => exact absurd ⟨[], t, rfl⟩ h
  | case2 c t _ ih => rw [ih fun hlater => h (List.infix_cons hlater)]
  | case3 => rfl

/-- The halves of a pair that is cut are left side by side. -/
theorem pair_infix_of_cutsPair {a b : Text} (h : CutsPair a b) : ['\\', 'n'] <:+: decode a ++ decode b := by
  obtain ⟨hlast, hhead⟩ := h
  obtain ⟨a, rfl⟩ := List.getLast?_eq_some_iff.1 hlast
  obtain ⟨b, rfl⟩ := List.head?_eq_some_iff.1 hhead
  have hfront : decode (a ++ ['\\']) = decode a ++ ['\\'] := by
    refine decode_append ?_
    rintro ⟨-, hn⟩
    cases hn
  have hback : decode ('n' :: b) = 'n' :: decode b := by
    refine decode_cons ?_
    rintro ⟨hn, -⟩
    cases hn
  rw [hfront, hback]
  exact ⟨decode a, decode b, by simp⟩

/-! ## No pair is lost -/

/-- **A text without line feeds can be typed again** from what it was decoded to. -/
theorem encode_decode {t : Text} (h : '\n' ∉ t) : encode (decode t) = t := by
  fun_induction decode t with
  | case1 t ih =>
    have htail : '\n' ∉ t := fun hmem => h (by simp [hmem])
    show ['\\', 'n'] ++ encode (decode t) = _
    rw [ih htail]
    rfl
  | case2 c t _ ih =>
    obtain ⟨hc, htail⟩ : '\n' ≠ c ∧ '\n' ∉ t := by simpa using h
    rw [encode, List.flatMap_cons, if_neg (Ne.symm hc)]
    show [c] ++ encode (decode t) = _
    rw [ih htail]
    rfl
  | case3 => rfl

/-- **Decoding loses nothing.** A decoded text has no backslash with an `n` behind it, so decoding it again
    changes nothing. If the typed text has no line feed, then writing the pair for every line feed of the
    decoded one gives it back. And two texts are decoded one by one if and only if the first does not end with
    a backslash where the second begins with an `n`. -/
theorem decode_lossless :
    (∀ t, ¬['\\', 'n'] <:+: decode t ∧ decode (decode t) = decode t)
    ∧ (∀ t, '\n' ∉ t → encode (decode t) = t)
    ∧ ∀ a b : Text, decode (a ++ b) = decode a ++ decode b
        ↔ ¬(a.getLast? = some '\\' ∧ b.head? = some 'n') := by
  refine ⟨fun t => ?_, fun t => encode_decode, fun a b => ⟨fun hpieces hcut => ?_, decode_append⟩⟩
  · have hnone := not_pair_infix_decode t
    exact ⟨hnone, decode_eq_self_of_not_pair_infix hnone⟩
  · have hpair := pair_infix_of_cutsPair hcut
    rw [← hpieces] at hpair
    exact not_pair_infix_decode _ hpair

/-- Backslashes in a row belong to no pair but for the last of them, and an `n` behind a pair is left alone. -/
theorem decode_lossless_row :
    '\n' ∉ "\\\\\\nn\\".toList ∧ decode "\\\\\\nn\\".toList = "\\\\\nn\\".toList
    ∧ encode "\\\\\nn\\".toList = "\\\\\\nn\\".toList := by
  have hfree : '\n' ∉ "\\\\\\nn\\".toList := by decide
  have hdecode : decode "\\\\\\nn\\".toList = "\\\\\nn\\".toList := by decide
  refine ⟨hfree, hdecode, ?_⟩
  rw [← hdecode]
  exact decode_lossless.2.1 _ hfree

end StringCalculator.Typed
