import StringCalculator.Error
import StringCalculator.Text.Quoted

/-!
# `StringCalculator.Delimiters` — sets of delimiters

An ordered set of texts, none of them empty. The order is that of first mention; it decides how the
set is shown and which of two delimiters of one length is tried first.

## Contents
- **`Delimiters`**, with `standard`, the comma and the line feed.
- **`ofList`**: the distinct items of a list, unless one is empty.
- **`merge`**: one set, then what it lacks of another.
- **`longestFirst`**: the delimiters by falling length in bytes.
- **`display`**: the quoted delimiters.
-/

namespace StringCalculator

/-- Removing repetitions leaves none. -/
theorem nodup_eraseDups {α : Type} [BEq α] [LawfulBEq α] (l : List α) :
    l.eraseDups.Nodup := by
  match l with
  | [] => simp
  | a :: l =>
    rw [List.eraseDups_cons, List.nodup_cons]
    exact ⟨by simp, nodup_eraseDups _⟩
termination_by l.length
decreasing_by exact Nat.lt_succ_of_le (List.length_filter_le _ _)

/-- An ordered set of non-empty texts. -/
@[ext] structure Delimiters where
  /-- The delimiters in order. -/
  toList : List Text
  nodup : toList.Nodup
  nil_notMem : [] ∉ toList
  deriving DecidableEq

namespace Delimiters

instance : Membership Text Delimiters := ⟨fun ds d => d ∈ ds.toList⟩

/-- No delimiter. -/
def empty : Delimiters := ⟨[], by simp, by simp⟩

/-- The delimiters of a text that declares none: the comma and the line feed. -/
def standard : Delimiters := ⟨[[','], ['\n']], by decide, by decide⟩

/-- The distinct items in order of first appearance; an empty item is refused. -/
def ofList (items : List Text) : Except HeaderError Delimiters :=
  if h : [] ∈ items then .error .emptyDelimiter
  else .ok ⟨items.eraseDups, nodup_eraseDups items, by simpa using h⟩

/-- The delimiters of the first set, then those of the second that the first lacks. -/
def merge (a b : Delimiters) : Delimiters where
  toList := a.toList ++ b.toList.filter (· ∉ a.toList)
  nodup := by
    refine List.nodup_append.2 ⟨a.nodup, b.nodup.filter _, fun x hx y hy h => ?_⟩
    exact of_decide_eq_true (List.mem_filter.1 hy).2 (h ▸ hx)
  nil_notMem := by
    simp [a.nil_notMem, b.nil_notMem]

/-- The first text has at least as many bytes as the second. -/
def atLeastAsLong (d e : Text) : Bool := e.utf8Length ≤ d.utf8Length

/-- The delimiters by falling length in bytes; those of one length keep their order. Each is put in front of
    the first one that is not longer. This is the stable sort by length (`longestFirst_eq_mergeSort`), in a
    form that can be computed in proofs too. -/
def longestFirst (ds : Delimiters) : List Text :=
  ds.toList.foldr (fun d es =>
    es.takeWhile (!atLeastAsLong d ·) ++ d :: es.dropWhile (!atLeastAsLong d ·)) []

/-- The quoted delimiters, divided by spaces. -/
def display (ds : Delimiters) : Text := Text.spaced (ds.toList.map Quoted.quote)

/-! ## Members -/

theorem mem_def {ds : Delimiters} {d : Text} : d ∈ ds ↔ d ∈ ds.toList := Iff.rfl

theorem ne_nil_of_mem {ds : Delimiters} {d : Text} (h : d ∈ ds) : d ≠ [] :=
  fun e => ds.nil_notMem (e ▸ h)

theorem ofList_eq_ok_iff {items : List Text} {ds : Delimiters} :
    ofList items = .ok ds ↔ [] ∉ items ∧ ds.toList = items.eraseDups := by
  by_cases h : [] ∈ items <;> simp [ofList, h, Delimiters.ext_iff, eq_comm]

theorem ofList_eq_error_iff {items : List Text} {e : HeaderError} :
    ofList items = .error e ↔ [] ∈ items ∧ e = .emptyDelimiter := by
  by_cases h : [] ∈ items <;> simp [ofList, h, eq_comm]

theorem exists_ofList {items : List Text} (h : [] ∉ items) : ∃ ds, ofList items = .ok ds :=
  ⟨_, dif_neg h⟩

/-- A text by itself is a set. -/
theorem exists_ofList_singleton {d : Text} (h : d ≠ []) : ∃ ds, ofList [d] = .ok ds ∧ ds.toList = [d] := by
  have nonempty : [] ∉ [d] := by simpa using h.symm
  obtain ⟨ds, hds⟩ := exists_ofList nonempty
  exact ⟨ds, hds, by simp [(ofList_eq_ok_iff.1 hds).2, List.eraseDups_cons]⟩

theorem mem_ofList {items : List Text} {ds : Delimiters} (h : ofList items = .ok ds) {d : Text} :
    d ∈ ds ↔ d ∈ items := by
  rw [mem_def, (ofList_eq_ok_iff.1 h).2, List.mem_eraseDups]

@[simp] theorem mem_merge {a b : Delimiters} {d : Text} : d ∈ a.merge b ↔ d ∈ a ∨ d ∈ b := by
  simp only [mem_def, merge, List.mem_append, List.mem_filter, decide_eq_true_eq]
  by_cases d ∈ a.toList <;> simp [*]

/-! ## Sorting -/

theorem atLeastAsLong_trans (d e f : Text) (h : atLeastAsLong d e) (h' : atLeastAsLong e f) :
    atLeastAsLong d f :=
  decide_eq_true (Nat.le_trans (of_decide_eq_true h') (of_decide_eq_true h))

theorem atLeastAsLong_total (d e : Text) : (atLeastAsLong d e || atLeastAsLong e d) = true := by
  simpa [atLeastAsLong] using Nat.le_total e.utf8Length d.utf8Length

/-- **The delimiters are sorted by length**, and the sort is stable. -/
theorem longestFirst_eq_mergeSort (ds : Delimiters) :
    ds.longestFirst = ds.toList.mergeSort atLeastAsLong := by
  unfold longestFirst
  induction ds.toList with
  | nil => simp
  | cons d es ih =>
    -- a stable sort puts the first text behind the longer ones too
    obtain ⟨longer, others, sorted, rest, before⟩ :=
      List.mergeSort_cons atLeastAsLong_trans atLeastAsLong_total d es
    have behind : ∀ e ∈ others, atLeastAsLong d e := by
      have order := List.pairwise_mergeSort atLeastAsLong_trans atLeastAsLong_total (d :: es)
      rw [sorted] at order
      exact (List.pairwise_cons.1 (List.pairwise_append.1 order).2.1).1
    rw [List.foldr_cons, ih, rest, sorted, List.takeWhile_append_of_pos before,
      List.dropWhile_append_of_pos before]
    cases others with
    | nil => simp
    | cons e others => simp [behind e List.mem_cons_self]

theorem longestFirst_perm (ds : Delimiters) : List.Perm ds.longestFirst ds.toList :=
  longestFirst_eq_mergeSort ds ▸ List.mergeSort_perm _ _

theorem pairwise_longestFirst (ds : Delimiters) :
    ds.longestFirst.Pairwise fun d e => e.utf8Length ≤ d.utf8Length := by
  rw [longestFirst_eq_mergeSort]
  refine (List.pairwise_mergeSort atLeastAsLong_trans atLeastAsLong_total ds.toList).imp ?_
  exact of_decide_eq_true

@[simp] theorem mem_longestFirst {ds : Delimiters} {d : Text} : d ∈ ds.longestFirst ↔ d ∈ ds :=
  (longestFirst_perm ds).mem_iff

end Delimiters

end StringCalculator
