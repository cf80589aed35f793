import Mathlib.Data.List.Forall2
import StringCalculator.Text.Quoted

/-!
# `StringCalculator.Proofs.Text.Quoted` — quoted texts read back

Between the quotes each character has one of three forms: itself, a short form, or its number. Which of them it
has depends on what a screen can show, and that is no matter here. What matters is that a quote and a backslash
are never written as they are. So a quote without a backslash is the end of the text, and a backslash begins a
form whose next character tells where that form ends. Whatever forms are chosen, one reader finds the text
again, and the rest of the line behind it.

Quoted texts with single spaces between them are read one by one. A text may hold what looks like the place
between two others; behind a backslash it is no such place.

## Contents
- **`ofHex`**, **`ofHex_toDigits`**: hexadecimal numbers.
- **`Form`**, **`Written`**: the ways to write a character and a text; **`written_quote`**: the one in use.
- **`readChar?`**, **`readBody?`**, **`ofSpaced?`**: reading a character, a text and a line of texts.
- **`readBody?_append`**, **`ofSpaced?_spaced`**: what was written is read.
-/

namespace StringCalculator.Quoted

/-! ## Hexadecimal numbers -/

/-- The value of a hexadecimal digit. -/
def digitValue (c : Char) : Nat :=
  if c.isDigit then c.toNat - '0'.toNat else c.toNat - 'a'.toNat + 10

/-- The value of a hexadecimal number. -/
def ofHex (t : Text) : Nat := t.foldl (fun n c => 16 * n + digitValue c) 0

theorem digitValue_digitChar : ∀ d < 16, digitValue (Nat.digitChar d) = d := by decide

/-- **A hexadecimal number reads back.** -/
theorem ofHex_toDigits (n : Nat) : ofHex (Nat.toDigits 16 n) = n := by
  induction n using Nat.strongRecOn with
  | ind n ih =>
    by_cases h : n < 16
    · rw [Nat.toDigits_of_lt_base h]
      simp [ofHex, digitValue_digitChar n h]
    · have hfront : ofHex (Nat.toDigits 16 (n / 16)) = n / 16 := ih (n / 16) (by omega)
      have hlast : digitValue (Nat.digitChar (n % 16)) = n % 16 := digitValue_digitChar _ (by omega)
      rw [Nat.toDigits_of_base_le (by decide) (by omega), ofHex, List.foldl_append]
      show 16 * ofHex (Nat.toDigits 16 (n / 16)) + digitValue (Nat.digitChar (n % 16)) = n
      omega

/-- A hexadecimal number consists of its digits. -/
theorem exists_digitChar_of_mem_toDigits {n : Nat} {c : Char} (h : c ∈ Nat.toDigits 16 n) :
    ∃ d < 16, c = Nat.digitChar d := by
  induction n using Nat.strongRecOn with
  | ind n ih =>
    by_cases hn : n < 16
    · rw [Nat.toDigits_of_lt_base hn] at h
      exact ⟨n, hn, List.mem_singleton.1 h⟩
    · rw [Nat.toDigits_of_base_le (by decide) (by omega)] at h
      rcases List.mem_append.1 h with hfront | hlast
      · exact ih (n / 16) (by omega) hfront
      · exact ⟨n % 16, by omega, List.mem_singleton.1 hlast⟩

/-- No digit is a brace. -/
theorem ne_brace_of_mem_toDigits {n : Nat} {c : Char} (h : c ∈ Nat.toDigits 16 n) : c ≠ '\x7d' := by
  obtain ⟨d, hd, rfl⟩ := exists_digitChar_of_mem_toDigits h
  have hnone : ∀ d < 16, Nat.digitChar d ≠ '\x7d' := by decide
  exact hnone d hd

/-! ## Forms -/

/-- The characters behind a backslash, with what they stand for there. -/
def shortForms : List (Char × Char) :=
  [('"', '"'), ('\x27', '\x27'), ('\\', '\\'), ('n', '\n'), ('r', '\r'), ('t', '\t'), ('0', '\x00')]

/-- The ways in which a character may be written between the quotes. Neither a quote nor a backslash stands
    for itself. -/
inductive Form : Char → Text → Prop
  | plain {c : Char} : c ≠ '"' → c ≠ '\\' → Form c [c]
  | short {s c : Char} : (s, c) ∈ shortForms → Form c ['\\', s]
  | number (c : Char) : Form c (byNumber c)

/-- The text is written between quotes, each of its characters in one of its forms. -/
def Written (t written : Text) : Prop :=
  ∃ forms, List.Forall₂ Form t forms ∧ written = '"' :: forms.flatten ++ ['"']

/-- The form in use is one of them. -/
theorem form_escape (c : Char) : Form c (escape c) := by
  have hshort {s d : Char} (hc : c = d) (hform : (s, d) ∈ shortForms) : Form c ['\\', s] :=
    hc ▸ .short hform
  unfold escape
  split_ifs with hquote hbackslash hfeed hreturn htab hnull hhidden
  · exact hshort hquote (by decide)
  · exact hshort hbackslash (by decide)
  · exact hshort hfeed (by decide)
  · exact hshort hreturn (by decide)
  · exact hshort htab (by decide)
  · exact hshort hnull (by decide)
  · exact .number c
  · exact .plain hquote hbackslash

/-- A quoted text is written in these forms. -/
theorem written_quote (t : Text) : Written t (quote t) := by
  refine ⟨t.map escape, ?_, by rw [quote, List.flatMap_def]⟩
  rw [List.forall₂_map_right_iff]
  exact List.forall₂_same.2 fun c _ => form_escape c

/-! ## Reading -/

/-- Reads one character: it, and the rest of the text. A quote that stands for itself is no character. -/
def readChar? : Text → Option (Char × Text)
  | '\\' :: 'u' :: '\x7b' :: t =>
    some (Char.ofNat (ofHex (t.takeWhile (· ≠ '\x7d'))), (t.dropWhile (· ≠ '\x7d')).tail)
  | '\\' :: s :: t => (shortForms.lookup s).map fun c => (c, t)
  | c :: t => if c = '"' ∨ c = '\\' then none else some (c, t)
  | [] => none

/-- Something is read. -/
theorem length_lt_of_readChar? {t rest : Text} {c : Char} (h : readChar? t = some (c, rest)) :
    rest.length < t.length := by
  unfold readChar? at h
  split at h
  · rename_i t
    obtain ⟨-, rfl⟩ := Prod.mk.inj (Option.some.inj h)
    have hle := (List.dropWhile_sublist (· ≠ '\x7d') (l := t)).length_le
    simp only [List.length_tail, List.length_cons]
    omega
  · obtain ⟨_, -, hrest⟩ := Option.map_eq_some_iff.1 h
    obtain ⟨-, rfl⟩ := Prod.mk.inj hrest
    simp only [List.length_cons]
    omega
  · split at h
    · cases h
    · cases h
      simp
  · cases h

/-- Reads a text behind its opening quote: the text, and what stands behind its closing quote. -/
def readBody? (t : Text) : Option (Text × Text) :=
  match _h : readChar? t with
  | some (c, rest) => (readBody? rest).map fun (s, rest) => (c :: s, rest)
  | none => if t.head? = some '"' then some ([], t.tail) else none
termination_by t.length
decreasing_by exact length_lt_of_readChar? _h

/-- As long as a character can be read, it comes first. -/
theorem readBody?_of_readChar? {t rest : Text} {c : Char} (h : readChar? t = some (c, rest)) :
    readBody? t = (readBody? rest).map fun (s, rest) => (c :: s, rest) := by
  rw [readBody?]
  split
  · rename_i hread
    rw [h] at hread
    cases hread
    rfl
  · rename_i hread
    rw [h] at hread
    cases hread

/-- A quote that stands for itself ends the text. -/
theorem readBody?_quote (rest : Text) : readBody? ('"' :: rest) = some ([], rest) := by
  rw [readBody?]
  rfl

/-- **Each form is read as its character**, whatever follows. -/
theorem Form.readChar?_append {c : Char} {form : Text} (h : Form c form) (rest : Text) :
    readChar? (form ++ rest) = some (c, rest) := by
  cases h with
  | plain hquote hbackslash => simp [readChar?, hquote, hbackslash]
  | @short s c hform =>
    have htable : ∀ p ∈ shortForms, shortForms.lookup p.1 = some p.2 ∧ p.1 ≠ 'u' := by decide
    obtain ⟨hlookup, hnumber⟩ := htable _ hform
    simp [readChar?, hlookup, hnumber]
  | number c =>
    have hdigits : ∀ d ∈ Nat.toDigits 16 c.toNat, decide (d ≠ '\x7d') = true := by
      intro d hd
      exact decide_eq_true (ne_brace_of_mem_toDigits hd)
    have htext : byNumber c ++ rest
        = '\\' :: 'u' :: '\x7b' :: (Nat.toDigits 16 c.toNat ++ '\x7d' :: rest) := by simp [byNumber]
    rw [htext, readChar?, List.takeWhile_append_of_pos hdigits, List.dropWhile_append_of_pos hdigits]
    simp [ofHex_toDigits]

/-- **A written text is read to its closing quote**, whatever follows. -/
theorem readBody?_append {t : Text} {forms : List Text} (h : List.Forall₂ Form t forms) (rest : Text) :
    readBody? (forms.flatten ++ '"' :: rest) = some (t, rest) := by
  induction h with
  | nil => exact readBody?_quote rest
  | cons hform _ ih =>
    rw [List.flatten_cons, List.append_assoc, readBody?_of_readChar? (hform.readChar?_append _), ih,
      Option.map_some]

/-! ## Lines of quoted texts -/

/-- What stands behind a text that was read is shorter. -/
theorem length_lt_of_readBody? {t s rest : Text} (h : readBody? t = some (s, rest)) :
    rest.length < t.length := by
  fun_induction readBody? t generalizing s with
  | case1 t c t' hread ih =>
    obtain ⟨⟨s', rest'⟩, hbody, hpair⟩ := Option.map_eq_some_iff.1 h
    obtain ⟨-, rfl⟩ := Prod.mk.inj hpair
    exact Nat.lt_trans (ih hbody) (length_lt_of_readChar? hread)
  | case2 t hread hquote =>
    obtain ⟨-, rfl⟩ := Prod.mk.inj (Option.some.inj h)
    obtain ⟨t, rfl⟩ := List.head?_eq_some_iff.1 hquote
    exact Nat.lt_succ_self _
  | case3 => cases h

/-- Reads quoted texts with one space between neighbours. -/
def ofSpaced? : Text → Option (List Text)
  | [] => some []
  | '"' :: t =>
    match _h : readBody? t with
    | some (s, []) => some [s]
    | some (s, ' ' :: rest) => (ofSpaced? rest).map (s :: ·)
    | _ => none
  | _ => none
termination_by t => t.length
decreasing_by
  have := length_lt_of_readBody? _h
  simp only [List.length_cons] at this ⊢
  omega

theorem ofSpaced?_of_last {t s : Text} (h : readBody? t = some (s, [])) :
    ofSpaced? ('"' :: t) = some [s] := by
  rw [ofSpaced?]
  split <;> simp_all

theorem ofSpaced?_of_space {t s rest : Text} (h : readBody? t = some (s, ' ' :: rest)) :
    ofSpaced? ('"' :: t) = (ofSpaced? rest).map (s :: ·) := by
  rw [ofSpaced?]
  split <;> simp_all

/-- **A line of written texts reads back**, text by text. -/
theorem ofSpaced?_spaced {ts written : List Text} (h : List.Forall₂ Written ts written) :
    ofSpaced? (Text.spaced written) = some ts := by
  induction h with
  | nil => rw [Text.spaced_nil, ofSpaced?]
  | @cons t _ ts written hfirst hrest ih =>
    obtain ⟨forms, hforms, rfl⟩ := hfirst
    cases hrest with
    | nil =>
      rw [Text.spaced_singleton]
      exact ofSpaced?_of_last (readBody?_append hforms [])
    | @cons u w us written _ _ =>
      have hbody := readBody?_append hforms (' ' :: Text.spaced (w :: written))
      have hline : Text.spaced (('"' :: forms.flatten ++ ['"']) :: w :: written)
          = '"' :: (forms.flatten ++ '"' :: ' ' :: Text.spaced (w :: written)) := by simp
      rw [hline, ofSpaced?_of_space hbody, ih, Option.map_some]

end StringCalculator.Quoted
