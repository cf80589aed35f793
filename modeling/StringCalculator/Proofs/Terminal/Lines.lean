import StringCalculator.Proofs.Text.Ends
import StringCalculator.Terminal.Session

/-!
# `StringCalculator.Proofs.Terminal.Lines` — the lines of an input and what they hold

A session reads bytes. They are cut into lines behind every line feed (`LinesOf`), and a line is the UTF-8
form of some text or of none. The *entry* that a line holds is its text without the carriage returns and
line feeds at its end, and an entry may be the word that ends the session.

All of this is said here by what the pieces put together give, without a word about how a line is read, cut
off or trimmed; for each there is an equivalence with the function that does it.

## Contents
- **`LinesOf`**, **`linesOf_iff`**: the lines of an input.
- **`encode`**, **`decodeLine?_eq_some_iff`**: a text as bytes.
- **`Holds`**, **`holds_iff`**: the entry that a line holds.
- **`SaysExit`**, **`asksToExit_iff`**: the entry that ends a session.
-/

namespace StringCalculator.Terminal

/-! ## Lines -/

/-- The lines of an input: each ends with the only line feed in it, except that the last one may have
    none. Nothing stands behind a line feed at the very end. -/
inductive LinesOf : List UInt8 → List (List UInt8) → Prop
  | nil : LinesOf [] []
  | last {line} : line ≠ [] → 0x0a ∉ line → LinesOf line [line]
  | cons {line input lines} : 0x0a ∉ line → LinesOf input lines →
      LinesOf (line ++ 0x0a :: input) ((line ++ [0x0a]) :: lines)

/-- Bytes without a line feed are one line. -/
theorem splitLines_of_notMem {line : List UInt8} (hne : line ≠ []) (h : 0x0a ∉ line) :
    splitLines line = [line] := by
  induction line with
  | nil => exact absurd rfl hne
  | cons b line ih =>
    have hb : b ≠ 0x0a := fun heq => h (heq ▸ List.mem_cons_self)
    have htail : 0x0a ∉ line := fun hmem => h (List.mem_cons_of_mem b hmem)
    rw [splitLines, if_neg hb]
    cases line with
    | nil => rfl
    | cons c line => rw [ih (List.cons_ne_nil c line) htail]

/-- The first line feed ends the first line. -/
theorem splitLines_append {line : List UInt8} (h : 0x0a ∉ line) (input : List UInt8) :
    splitLines (line ++ 0x0a :: input) = (line ++ [0x0a]) :: splitLines input := by
  induction line with
  | nil => rfl
  | cons b line ih =>
    have hb : b ≠ 0x0a := fun heq => h (heq ▸ List.mem_cons_self)
    have htail : 0x0a ∉ line := fun hmem => h (List.mem_cons_of_mem b hmem)
    rw [List.cons_append, splitLines, if_neg hb, ih htail]
    rfl

/-- One more byte in front belongs to the first line. -/
theorem LinesOf.cons_byte {b : UInt8} {input line : List UInt8} {lines : List (List UInt8)}
    (hb : b ≠ 0x0a) (h : LinesOf input (line :: lines)) : LinesOf (b :: input) ((b :: line) :: lines) := by
  have hfree {line : List UInt8} (hline : 0x0a ∉ line) : 0x0a ∉ b :: line := by
    intro hmem
    rcases List.mem_cons.1 hmem with heq | hmem
    · exact hb heq.symm
    · exact hline hmem
  cases h with
  | last hne hline => exact .last (List.cons_ne_nil b _) (hfree hline)
  | cons hline htail => exact .cons (hfree hline) htail

/-- The lines that are cut are the lines of the input. -/
theorem linesOf_splitLines (input : List UInt8) : LinesOf input (splitLines input) := by
  induction input with
  | nil => exact .nil
  | cons b input ih =>
    rw [splitLines]
    by_cases hb : b = 0x0a
    · rw [if_pos hb, hb]
      exact .cons (List.not_mem_nil) ih
    · rw [if_neg hb]
      cases hlines : splitLines input with
      | nil =>
        have hinput := flatten_splitLines input
        rw [hlines] at hinput
        rw [← hinput]
        refine .last (List.cons_ne_nil b _) ?_
        intro hmem
        exact hb (List.mem_singleton.1 hmem).symm
      | cons line lines =>
        rw [hlines] at ih
        exact ih.cons_byte hb

/-- **The lines of an input are determined**, and they are the ones that are cut. -/
theorem linesOf_iff {input : List UInt8} {lines : List (List UInt8)} :
    LinesOf input lines ↔ lines = splitLines input := by
  constructor
  · intro h
    induction h with
    | nil => rfl
    | last hne hline => rw [splitLines_of_notMem hne hline]
    | cons hline _ ih => rw [splitLines_append hline, ih]
  · rintro rfl
    exact linesOf_splitLines input

/-! ## Texts as bytes -/

/-- The bytes of a text in UTF-8. -/
def encode (t : Text) : List UInt8 := t.flatMap String.utf8EncodeChar

/-- Bytes are decoded to the string that they belong to. -/
theorem fromUTF8?_eq_some_iff {bytes : ByteArray} {s : String} :
    String.fromUTF8? bytes = some s ↔ bytes = s.toByteArray := by
  unfold String.fromUTF8?
  constructor
  · intro h
    split at h
    · cases h
      rfl
    · cases h
  · rintro rfl
    exact dif_pos s.isValidUTF8

/-- The bytes of a string encode its characters. -/
theorem toByteArray_eq_encode (s : String) : s.toByteArray = ⟨(encode s.toList).toArray⟩ := by
  obtain ⟨t, rfl⟩ : ∃ t, s = String.ofList t := ⟨s.toList, String.ofList_toList.symm⟩
  rw [String.toByteArray_ofList, String.toList_ofList]
  exact ByteArray.ext (by rw [List.utf8Encode, List.data_toByteArray, encode])

/-- A line is decoded to the text that it is the UTF-8 form of. -/
theorem decodeLine?_eq_some_iff {line : List UInt8} {t : Text} :
    decodeLine? line = some t ↔ line = encode t := by
  unfold decodeLine?
  constructor
  · intro h
    obtain ⟨s, hs, rfl⟩ := Option.map_eq_some_iff.1 h
    have hbytes := fromUTF8?_eq_some_iff.1 hs
    rw [toByteArray_eq_encode] at hbytes
    exact congrArg (fun bytes => bytes.data.toList) hbytes
  · rintro rfl
    apply Option.map_eq_some_iff.2
    refine ⟨String.ofList t, fromUTF8?_eq_some_iff.2 ?_, String.toList_ofList⟩
    rw [toByteArray_eq_encode, String.toList_ofList]

/-! ## Entries -/

/-- The line holds the entry: its text, less the carriage returns and line feeds at the end of it. -/
def Holds (line : List UInt8) (s : Text) : Prop :=
  ∃ ends, line = encode (s ++ ends) ∧ (∀ c ∈ ends, c = '\r' ∨ c = '\n')
    ∧ ∀ c, s.getLast? = some c → ¬(c = '\r' ∨ c = '\n')

/-- A line holds what is left of its text. -/
theorem holds_iff {line : List UInt8} {s : Text} :
    Holds line s ↔ ∃ t, decodeLine? line = some t ∧ withoutTerminator t = s := by
  simp only [decodeLine?_eq_some_iff, withoutTerminator, Text.dropEndWhile_eq_iff, decide_eq_true_eq,
    decide_eq_false_iff_not]
  constructor
  · rintro ⟨ends, hline, hends, hlast⟩
    exact ⟨s ++ ends, hline, ⟨ends, rfl, hends⟩, hlast⟩
  · rintro ⟨t, hline, ⟨ends, rfl, hends⟩, hlast⟩
    exact ⟨ends, hline, hends, hlast⟩

/-- The entry says `exit`: but for white space around it and the case of ASCII letters it is this word. -/
def SaysExit (s : Text) : Prop :=
  ∃ a w b, s = a ++ w ++ b ∧ a.isBlank ∧ b.isBlank ∧ w.map Char.toLower = "exit".toList

/-- White space has no case. -/
theorem toLower_of_isSpace {c : Char} (h : isSpace c) : c.toLower = c := by
  unfold Char.toLower
  apply dif_neg
  intro hupper
  have hrange : 65 ≤ c.toNat ∧ c.toNat ≤ 90 := by
    simpa [UInt32.le_iff_toNat_le] using hupper
  simp [isSpace, inRanges, whiteSpaceRanges] at h
  omega

/-- The letters of the word, in either case, are no white space. -/
theorem isSpace_eq_false_of_mem_exit {w : Text} (h : w.map Char.toLower = "exit".toList) {c : Char}
    (hc : c ∈ w) : isSpace c = false := by
  have hletter : c.toLower ∈ ['e', 'x', 'i', 't'] := by
    have hmem : c.toLower ∈ w.map Char.toLower := List.mem_map_of_mem hc
    rwa [h] at hmem
  rw [Bool.eq_false_iff]
  intro hspace
  -- white space would be one of the letters itself
  rw [toLower_of_isSpace hspace] at hletter
  simp only [List.mem_cons, List.not_mem_nil, or_false] at hletter
  rcases hletter with rfl | rfl | rfl | rfl
  all_goals
    revert hspace
    decide

/-- What is trimmed off an entry is white space, and none is left in the word. -/
theorem asksToExit_iff {s : Text} : asksToExit s ↔ SaysExit s := by
  unfold asksToExit Text.equalIgnoringCase SaysExit
  rw [beq_iff_eq]
  constructor
  · intro h
    obtain ⟨⟨a, b, hs, ha, hb⟩, -⟩ := Text.trim_eq_iff.1 (rfl : s.trim = s.trim)
    exact ⟨a, s.trim, b, hs, ha, hb, h⟩
  · rintro ⟨a, w, b, rfl, ha, hb, hw⟩
    have hword {c : Char} : c ∈ w → isSpace c = false := isSpace_eq_false_of_mem_exit hw
    have htrim : (a ++ w ++ b).trim = w := Text.trim_eq_iff.2
      ⟨⟨a, b, rfl, ha, hb⟩, fun c hc => hword (List.mem_of_mem_head? hc),
        fun c hc => hword (List.mem_of_mem_getLast? hc)⟩
    rw [htrim, hw]
    decide

end StringCalculator.Terminal
