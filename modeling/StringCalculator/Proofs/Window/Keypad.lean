import Mathlib.Data.List.Infix
import StringCalculator.Proofs.Text.Ends
import StringCalculator.Window

/-!
# `StringCalculator.Proofs.Window.Keypad` — deleting takes back what was written

A key writes one symbol behind the entry, and deleting takes one symbol away; but the entry is a text and keeps
no record of the keys. Deleting has to guess from the last two characters. It guesses right behind every key
but one: a slash behind a slash reads as the marker of a header, so both go at once.

No key leaves a space at the end of the entry. So once the entry does not end with one, an operator takes
nothing away, every key only appends, and as many deletions as there were keys lead back.

## Contents
- **`deleteSymbol_append_label`**: deleting behind one key.
- **`exists_deleted`**: how much goes at a time.
- **`Window.entryAfter`**: the entry after some buttons were clicked; **`entryAfter_keys_delete`**: keys, and
  as many deletions.
- **`keypad_undone`**: all of these.
-/

namespace StringCalculator

/-! ## One symbol -/

/-- Two characters end a text with one more character behind it. -/
theorem pair_suffix_concat_iff {a b c : Char} {t : Text} :
    [a, b] <:+ t ++ [c] ↔ c = b ∧ t.getLast? = some a := by
  constructor
  · rintro ⟨r, hr⟩
    have hsplit : (r ++ [a]) ++ [b] = t ++ [c] := by simpa using hr
    obtain ⟨rfl, hlast⟩ := List.append_inj' hsplit rfl
    exact ⟨(List.singleton_inj.1 hlast).symm, List.getLast?_concat⟩
  · rintro ⟨rfl, hlast⟩
    obtain ⟨r, rfl⟩ := List.getLast?_eq_some_iff.1 hlast
    exact ⟨r, by simp⟩

/-- A symbol of two characters goes at once. -/
theorem deleteSymbol_append_pair {pair : Text} (h : pair = Key.lineFeed.label ∨ pair = Key.marker.label)
    (t : Text) : deleteSymbol (t ++ pair) = t := by
  have hfound : Key.lineFeed.label.isSuffixOf (t ++ pair) ∨ Key.marker.label.isSuffixOf (t ++ pair) := by
    rw [List.isSuffixOf_iff_suffix, List.isSuffixOf_iff_suffix]
    rcases h with rfl | rfl
    · exact .inl (List.suffix_append _ _)
    · exact .inr (List.suffix_append _ _)
  rw [deleteSymbol, if_pos hfound]
  rcases h with rfl | rfl <;> simp [Key.label]

/-- A character that ends no such symbol goes alone. -/
theorem deleteSymbol_concat {t : Text} {c : Char} (hfeed : ¬(c = 'n' ∧ t.getLast? = some '\\'))
    (hslash : ¬(c = '/' ∧ t.getLast? = some '/')) : deleteSymbol (t ++ [c]) = t := by
  have hnone : ¬(Key.lineFeed.label.isSuffixOf (t ++ [c]) ∨ Key.marker.label.isSuffixOf (t ++ [c])) := by
    rw [List.isSuffixOf_iff_suffix, List.isSuffixOf_iff_suffix]
    rintro (h | h)
    · exact hfeed (pair_suffix_concat_iff.1 h)
    · exact hslash (pair_suffix_concat_iff.1 h)
  rw [deleteSymbol, if_neg hnone, List.dropLast_concat]

/-- **What goes at a time** is one character or two, if there are any. -/
theorem exists_deleted {entry : Text} (h : entry ≠ []) :
    ∃ deleted, entry = deleteSymbol entry ++ deleted ∧ (deleted.length = 1 ∨ deleted.length = 2) := by
  by_cases hfeed : Key.lineFeed.label <:+ entry
  · obtain ⟨t, rfl⟩ := hfeed
    exact ⟨Key.lineFeed.label, by rw [deleteSymbol_append_pair (.inl rfl)], .inr rfl⟩
  · by_cases hmarker : Key.marker.label <:+ entry
    · obtain ⟨t, rfl⟩ := hmarker
      exact ⟨Key.marker.label, by rw [deleteSymbol_append_pair (.inr rfl)], .inr rfl⟩
    · obtain ⟨t, c, rfl⟩ := (List.eq_nil_or_concat' entry).resolve_left h
      have hfeed' := mt pair_suffix_concat_iff.2 hfeed
      have hmarker' := mt pair_suffix_concat_iff.2 hmarker
      exact ⟨[c], by rw [deleteSymbol_concat hfeed' hmarker'], .inl rfl⟩

theorem length_deleteSymbol_le (entry : Text) : (deleteSymbol entry).length ≤ entry.length - 1 := by
  by_cases h : entry = []
  · rw [h]
    exact Nat.le_refl _
  · obtain ⟨deleted, hentry, hlength⟩ := exists_deleted h
    have htotal := congrArg List.length hentry
    rw [List.length_append] at htotal
    omega

/-! ## Keys -/

namespace Key

/-- A key writes one of the symbols of two characters, or one character; the slash is written by division
    alone. -/
theorem label_cases (key : Key) :
    (key.label = lineFeed.label ∨ key.label = marker.label)
    ∨ ∃ c, key.label = [c] ∧ c ≠ 'n' ∧ c ≠ ' ' ∧ (c = '/' → key = .operator .div) := by
  cases key with
  | digit d =>
    have hdigit : ∀ d : Fin 10, Nat.digitChar d ≠ 'n' ∧ Nat.digitChar d ≠ ' ' ∧ Nat.digitChar d ≠ '/' := by
      decide
    obtain ⟨hfeed, hspace, hslash⟩ := hdigit d
    have hlabel : (digit d).label = [Nat.digitChar d] := Nat.toDigits_of_lt_base d.isLt
    exact .inr ⟨_, hlabel, hfeed, hspace, fun h => absurd h hslash⟩
  | lparen => exact .inr ⟨'(', rfl, by decide⟩
  | rparen => exact .inr ⟨')', rfl, by decide⟩
  | comma => exact .inr ⟨',', rfl, by decide⟩
  | marker => exact .inl (.inr rfl)
  | lineFeed => exact .inl (.inl rfl)
  | operator o => exact .inr ⟨o.symbol, rfl, by cases o <;> decide⟩

/-- **Deleting takes one key back.** It would take two slashes for one symbol. -/
theorem deleteSymbol_append_label {key : Key} {t : Text}
    (hslash : key = .operator .div → t.getLast? ≠ some '/') : deleteSymbol (t ++ key.label) = t := by
  rcases key.label_cases with hpair | ⟨c, hlabel, hfeed, -, hdiv⟩
  · exact deleteSymbol_append_pair hpair t
  · rw [hlabel]
    apply deleteSymbol_concat
    · exact fun h => hfeed h.1
    · exact fun h => hslash (hdiv h.1) h.2

/-- A key that is no operator writes behind the entry as it is. -/
theorem write_of_ne_operator {key : Key} (h : ∀ o, key ≠ .operator o) (entry : Text) :
    key.write entry = entry ++ key.label := by
  cases key with
  | operator o => exact absurd rfl (h o)
  | _ => rfl

/-- An operator takes the spaces in front of it away. -/
theorem write_operator_append {s : Text} (hs : s.getLast? ≠ some ' ') (n : Nat) (o : Operator) :
    (operator o).write (s ++ List.replicate n ' ') = s ++ [o.symbol] := by
  have hstripped : Text.dropEndWhile (· = ' ') (s ++ List.replicate n ' ') = s := by
    rw [Text.dropEndWhile_eq_iff]
    refine ⟨⟨_, rfl, fun c hc => ?_⟩, fun c hc => ?_⟩
    · exact decide_eq_true (List.eq_of_mem_replicate hc)
    · exact decide_eq_false fun hspace => hs (hspace ▸ hc)
  show Text.dropEndWhile (· = ' ') (s ++ List.replicate n ' ') ++ [o.symbol] = _
  rw [hstripped]

/-- Behind an entry that does not end with a space, every key only appends. -/
theorem write_of_unspaced {entry : Text} (h : entry.getLast? ≠ some ' ') (key : Key) :
    key.write entry = entry ++ key.label := by
  cases key with
  | operator o =>
    have hwrite := write_operator_append h 0 o
    rwa [List.replicate_zero, List.append_nil] at hwrite
  | _ => rfl

/-- No key leaves a space at the end. -/
theorem getLast?_write_ne_space (key : Key) (entry : Text) : (key.write entry).getLast? ≠ some ' ' := by
  have hlabel : ∃ front, key.write entry = front ++ key.label := by
    cases key with
    | operator o => exact ⟨_, rfl⟩
    | _ => exact ⟨entry, rfl⟩
  obtain ⟨front, hwrite⟩ := hlabel
  rw [hwrite]
  rcases key.label_cases with (hpair | hpair) | ⟨c, hc, -, hspace, -⟩
  · rw [hpair]
    simp [label]
  · rw [hpair]
    simp [label]
  · rw [hc]
    simpa using hspace

end Key

/-- Every text is a text that does not end with a space, and spaces behind it. -/
theorem Text.exists_spaces (t : Text) :
    ∃ s n, t = s ++ List.replicate n ' ' ∧ s.getLast? ≠ some ' ' := by
  obtain ⟨⟨ends, ht, hends⟩, hlast⟩ := (Text.dropEndWhile_eq_iff (p := (· = ' ')) (t := t)).1 rfl
  have hspaces : ends = List.replicate ends.length ' ' :=
    List.eq_replicate_iff.2 ⟨rfl, fun c hc => of_decide_eq_true (hends c hc)⟩
  refine ⟨_, ends.length, hspaces ▸ ht, fun h => ?_⟩
  exact absurd rfl (of_decide_eq_false (hlast ' ' h))

/-! ## Clicks -/

namespace Window

/-- What the entry is after a click on each of the buttons in turn. -/
def entryAfter (w : Window) (buttons : List Button) (field : NumberField := .rounding) : Text :=
  (w.run (buttons.map fun b => .input (.click b)) field).calculator.entry

variable {field : NumberField} {w : Window}

/-- The last click deletes. -/
theorem entryAfter_concat_delete (buttons : List Button) :
    w.entryAfter (buttons ++ [.delete]) field = deleteSymbol (w.entryAfter buttons field) := by
  rw [entryAfter, List.map_append, run, List.foldl_append]
  rfl

/-- **Deleting takes all keys back**, if the entry did not end with a space in front of them and division was
    never clicked behind a slash. -/
theorem entryAfter_keys_delete {keys : List Key} (hspace : w.calculator.entry.getLast? ≠ some ' ')
    (hslash : ∀ front rest, keys = front ++ .operator .div :: rest →
      (w.entryAfter (front.map .key) field).getLast? ≠ some '/') :
    w.entryAfter (keys.map .key ++ List.replicate keys.length .delete) field = w.calculator.entry := by
  induction keys generalizing w with
  | nil => rfl
  | cons key keys ih =>
    -- behind the first key the others are taken back, and the last deletion is for that key
    have hothers : (w.step (.input (.click (.key key))) field).entryAfter
        (keys.map .key ++ List.replicate keys.length .delete) field = key.write w.calculator.entry := by
      apply ih
      · exact key.getLast?_write_ne_space w.calculator.entry
      · intro front rest hkeys
        exact hslash (key :: front) rest (by rw [hkeys, List.cons_append])
    have hbuttons : (key :: keys).map Button.key ++ List.replicate (key :: keys).length .delete
        = .key key :: (keys.map .key ++ List.replicate keys.length .delete) ++ [.delete] := by
      simp [List.replicate_succ']
    have hkey : key = .operator .div → w.calculator.entry.getLast? ≠ some '/' := by
      rintro rfl
      exact hslash [] keys rfl
    rw [hbuttons, entryAfter_concat_delete]
    show deleteSymbol ((w.step (.input (.click (.key key))) field).entryAfter _ field) = _
    rw [hothers, key.write_of_unspaced hspace, Key.deleteSymbol_append_label hkey]

/-- Every deletion takes something, as long as there is something. -/
theorem length_entryAfter_delete (n : Nat) :
    (w.entryAfter (List.replicate n .delete) field).length ≤ w.calculator.entry.length - n := by
  induction n with
  | zero => exact Nat.le_refl _
  | succ n ih =>
    rw [List.replicate_succ', entryAfter_concat_delete]
    have hshorter := length_deleteSymbol_le (w.entryAfter (List.replicate n .delete) field)
    omega

/-- **Deleting takes back what was written.** In a window with any entry:

    * if the entry does not end with a space, then after clicks on any keys, division never behind a slash, as
      many clicks on delete lead back to it;
    * behind a key that is no operator, one click on delete leads back to the entry;
    * behind an operator it leads to the entry without the spaces at its end, but that division behind a slash
      takes that slash along;
    * a click on delete takes one or two characters off the end of an entry that is not empty, so with as many
      clicks as the entry has characters nothing is left. -/
theorem keypad_undone (field : NumberField) (w : Window) :
    (∀ keys : List Key, w.calculator.entry.getLast? ≠ some ' ' →
      (∀ front rest, keys = front ++ .operator .div :: rest →
        (w.entryAfter (front.map .key) field).getLast? ≠ some '/') →
      w.entryAfter (keys.map .key ++ List.replicate keys.length .delete) field = w.calculator.entry)
    ∧ (∀ key : Key, (∀ o, key ≠ .operator o) →
      w.entryAfter [.key key, .delete] field = w.calculator.entry)
    ∧ (∀ o : Operator, ∃ s n, w.calculator.entry = s ++ List.replicate n ' ' ∧ s.getLast? ≠ some ' '
      ∧ w.entryAfter [.key (.operator o), .delete] field
        = if o = .div ∧ s.getLast? = some '/' then s.dropLast else s)
    ∧ (w.calculator.entry ≠ [] → ∃ deleted,
      w.calculator.entry = w.entryAfter [.delete] field ++ deleted
        ∧ (deleted.length = 1 ∨ deleted.length = 2))
    ∧ ∀ n, w.calculator.entry.length ≤ n → w.entryAfter (List.replicate n .delete) field = [] := by
  refine ⟨fun keys => entryAfter_keys_delete, fun key hkey => ?_, fun o => ?_, exists_deleted, fun n hn => ?_⟩
  · show deleteSymbol (key.write w.calculator.entry) = _
    rw [key.write_of_ne_operator hkey]
    apply Key.deleteSymbol_append_label
    exact fun hdiv => absurd hdiv (hkey .div)
  · obtain ⟨s, n, hentry, hs⟩ := Text.exists_spaces w.calculator.entry
    refine ⟨s, n, hentry, hs, ?_⟩
    show deleteSymbol ((Key.operator o).write w.calculator.entry) = _
    rw [hentry, Key.write_operator_append hs]
    split
    · rename_i hslash
      obtain ⟨rfl, hlast⟩ := hslash
      obtain ⟨r, rfl⟩ := List.getLast?_eq_some_iff.1 hlast
      have hmarker : r ++ ['/'] ++ [Operator.div.symbol] = r ++ Key.marker.label :=
        List.append_assoc _ _ _
      rw [hmarker, deleteSymbol_append_pair (.inr rfl), List.dropLast_concat]
    · rename_i hslash
      show deleteSymbol (s ++ (Key.operator o).label) = s
      apply Key.deleteSymbol_append_label
      intro hdiv hlast
      exact hslash ⟨Key.operator.inj hdiv, hlast⟩
  · apply List.length_eq_zero_iff.1
    have hlength : (w.entryAfter (List.replicate n .delete) field).length ≤ w.calculator.entry.length - n :=
      length_entryAfter_delete n
    omega

/-- Behind a backslash: a slash, a marker that makes it three, and a line feed as it is typed. -/
theorem keypad_undone_slashes :
    let w : Window := ⟨{ Calculator.ofPolicy {} with entry := "1 \\".toList }, false⟩
    let keys : List Key := [.operator .div, .marker, .lineFeed, .operator .sub, .digit 0]
    w.calculator.entry.getLast? ≠ some ' '
    ∧ (∀ front rest, keys = front ++ .operator .div :: rest →
        (w.entryAfter (front.map .key)).getLast? ≠ some '/')
    ∧ w.entryAfter (keys.map .key) = "1 \\///\\n-0".toList
    ∧ w.entryAfter (keys.map .key ++ List.replicate keys.length .delete) = "1 \\".toList := by
  intro w keys
  have hspace : w.calculator.entry.getLast? ≠ some ' ' := by decide
  have hslash : ∀ front rest, keys = front ++ .operator .div :: rest →
      (w.entryAfter (front.map .key)).getLast? ≠ some '/' := by
    intro front rest hkeys
    cases front with
    | nil => decide
    | cons key front =>
      -- division is the first key only
      have hrest : [Key.marker, .lineFeed, .operator .sub, .digit 0] = front ++ .operator .div :: rest :=
        (List.cons.inj hkeys).2
      have hmem : Key.operator .div ∈ front ++ .operator .div :: rest := by simp
      rw [← hrest] at hmem
      exact absurd hmem (by decide)
  exact ⟨hspace, hslash, by decide +kernel, (keypad_undone .rounding w).1 keys hspace hslash⟩

end Window

end StringCalculator
