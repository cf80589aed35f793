import Mathlib.Data.List.Basic
import StringCalculator.Delimiters

/-!
# `StringCalculator.Proofs.Delimiters.OrderedSet` — the laws of ordered sets

A set of delimiters is a list: the order of first mention decides how it is shown and, among delimiters of
one length, which is tried first. So the laws of sets are equations between lists here. What a list of
items becomes is told by `FirstOccurrences`, and no two lists satisfy it.

Everything about `merge` comes from one equation: a list put together of two becomes the sets of the two,
merged. Every set is what its own list becomes, so the laws of `merge` are those of putting lists together.
Its proof goes through `eraseDups_filter`, since `merge` takes out of the second set what `eraseDups` never
sees.

## Contents
- **`eraseDups_filter`**: repetitions and unwanted members can be taken out in any order.
- **`FirstOccurrences`**, **`ofList_eq_ok_iff_firstOccurrences`**: the set of a list.
- **`ofList_append`**, **`ofList_toList`**, **`merge_assoc`**: the laws of `merge`.
- **`ByLength`**, **`eq_longestFirst_iff`**: the delimiters by falling length, those of one length in the
  order of the set.
- **`lawful_ordered_set`**: all of these.
-/

namespace StringCalculator

/-! ## Repetitions -/

section

variable {α : Type} [BEq α] [LawfulBEq α]

/-- **Repetitions and unwanted members can be taken out in any order.** -/
theorem eraseDups_filter (p : α → Bool) (l : List α) : (l.filter p).eraseDups = l.eraseDups.filter p := by
  match l with
  | [] => rfl
  | a :: l =>
    -- what is left behind `a` is no tail of the list, so the recursion is on the length
    have hrest := eraseDups_filter p (l.filter fun b => !b == a)
    rw [List.eraseDups_cons]
    by_cases ha : p a
    · rw [List.filter_cons_of_pos ha, List.filter_cons_of_pos ha, List.eraseDups_cons, ← hrest,
        List.filter_comm]
    · -- `a` is unwanted, so it need not be taken out of what is wanted
      have hother : ∀ b ∈ l, (p b && !b == a) = p b := by
        intro b _
        by_cases hb : b = a
        · subst hb
          simp [ha]
        · simp [hb]
      rw [List.filter_cons_of_neg ha, List.filter_cons_of_neg ha, ← hrest, List.filter_filter,
        List.filter_congr hother]
termination_by l.length
decreasing_by exact Nat.lt_succ_of_le (List.length_filter_le _ _)

/-- The first item stays, and it is taken out of what is left of the others. -/
theorem eraseDups_cons_eq (a : α) (l : List α) : (a :: l).eraseDups = a :: l.eraseDups.filter fun b => !b == a := by
  rw [List.eraseDups_cons, eraseDups_filter]

theorem eraseDups_of_nodup {l : List α} (h : l.Nodup) : l.eraseDups = l := by
  induction l with
  | nil => rfl
  | cons a l ih =>
    obtain ⟨ha, hl⟩ := List.nodup_cons.1 h
    rw [eraseDups_cons_eq, ih hl, List.filter_eq_self.2]
    intro b hb
    simpa using ne_of_mem_of_not_mem hb ha

/-- Of two items the one that is left first is the one that came first. -/
theorem pairwise_eraseDups (l : List α) : l.eraseDups.Pairwise fun a b => l.idxOf a < l.idxOf b := by
  induction l with
  | nil => simp
  | cons c l ih =>
    have hne {b : α} (hb : b ∈ l.eraseDups.filter fun b => !b == c) : c ≠ b := by
      rintro rfl
      simp at hb
    rw [eraseDups_cons_eq, List.pairwise_cons]
    constructor
    · intro b hb
      rw [List.idxOf_cons_self, List.idxOf_cons_ne _ (hne hb)]
      exact Nat.succ_pos _
    · refine (ih.filter _).imp_of_mem ?_
      intro a b ha hb hlt
      rw [List.idxOf_cons_ne _ (hne ha), List.idxOf_cons_ne _ (hne hb)]
      exact Nat.succ_lt_succ hlt

end

namespace Delimiters

/-! ## The set of a list -/

/-- The distinct items, in order of first occurrence. -/
structure FirstOccurrences (items l : List Text) : Prop where
  /-- Nothing is added and nothing is lost. -/
  mem_iff (d : Text) : d ∈ l ↔ d ∈ items
  /-- The order is strict, so nothing is repeated. -/
  inOrder : l.Pairwise fun d d' => items.idxOf d < items.idxOf d'

theorem FirstOccurrences.nodup {items l : List Text} (h : FirstOccurrences items l) : l.Nodup :=
  h.inOrder.imp fun hlt => by
    rintro rfl
    exact Nat.lt_irrefl _ hlt

theorem firstOccurrences_eraseDups (items : List Text) : FirstOccurrences items items.eraseDups :=
  ⟨fun _ => List.mem_eraseDups, pairwise_eraseDups items⟩

/-- Items occur first in one order only. -/
theorem FirstOccurrences.unique {items l l' : List Text} (h : FirstOccurrences items l)
    (h' : FirstOccurrences items l') : l = l' := by
  have hmembers : List.Perm l l' := by
    refine (List.perm_ext_iff_of_nodup h.nodup h'.nodup).2 fun d => ?_
    rw [h.mem_iff, h'.mem_iff]
  refine List.Perm.eq_of_pairwise ?_ h.inOrder h'.inOrder hmembers
  intro d d' _ _ hlt hgt
  exact absurd hgt (Nat.lt_asymm hlt)

/-- **The set of a list** holds the items in order of first occurrence. -/
theorem ofList_eq_ok_iff_firstOccurrences {items : List Text} {ds : Delimiters} :
    ofList items = .ok ds ↔ [] ∉ items ∧ FirstOccurrences items ds.toList := by
  rw [ofList_eq_ok_iff]
  constructor
  · rintro ⟨hnonempty, hlist⟩
    exact ⟨hnonempty, hlist ▸ firstOccurrences_eraseDups items⟩
  · rintro ⟨hnonempty, hfirst⟩
    exact ⟨hnonempty, hfirst.unique (firstOccurrences_eraseDups items)⟩

/-! ## Merging -/

/-- **Every set is the set of its own list.** -/
theorem ofList_toList (ds : Delimiters) : ofList ds.toList = .ok ds :=
  ofList_eq_ok_iff.2 ⟨ds.nil_notMem, (eraseDups_of_nodup ds.nodup).symm⟩

/-- **Putting lists together merges their sets.** -/
theorem ofList_append {xs ys : List Text} {a b : Delimiters} (ha : ofList xs = .ok a)
    (hb : ofList ys = .ok b) : ofList (xs ++ ys) = .ok (a.merge b) := by
  obtain ⟨hxs, hlista⟩ := ofList_eq_ok_iff.1 ha
  obtain ⟨hys, hlistb⟩ := ofList_eq_ok_iff.1 hb
  refine ofList_eq_ok_iff.2 ⟨by simp [hxs, hys], ?_⟩
  have hlacked : ys.removeAll xs = ys.filter (· ∉ a.toList) := by
    refine List.filter_congr fun d _ => ?_
    simp [hlista]
  rw [List.eraseDups_append, hlacked, eraseDups_filter, ← hlista, ← hlistb]
  rfl

theorem ofList_toList_append (a b : Delimiters) : ofList (a.toList ++ b.toList) = .ok (a.merge b) :=
  ofList_append (ofList_toList a) (ofList_toList b)

/-- **It does not matter which sets are merged first.** -/
theorem merge_assoc (a b c : Delimiters) : (a.merge b).merge c = a.merge (b.merge c) := by
  have hleft := ofList_append (ofList_toList_append a b) (ofList_toList c)
  have hright := ofList_append (ofList_toList a) (ofList_toList_append b c)
  rw [List.append_assoc, hright] at hleft
  exact (Except.ok.inj hleft).symm

/-- A set lacks nothing of itself. -/
theorem merge_self (a : Delimiters) : a.merge a = a := by
  have hnone : a.toList.filter (· ∉ a.toList) = [] := by simp
  apply Delimiters.ext
  show a.toList ++ a.toList.filter (· ∉ a.toList) = a.toList
  rw [hnone, List.append_nil]

/-! ## By length -/

/-- The list by falling length in bytes; delimiters of one length keep their order. -/
structure ByLength (ds l : List Text) : Prop where
  /-- Nothing is added and nothing is lost. -/
  perm : List.Perm l ds
  /-- The longer one comes first, and of one length the one that came first. -/
  inOrder : l.Pairwise fun d d' =>
    d'.utf8Length < d.utf8Length ∨ (d'.utf8Length = d.utf8Length ∧ ds.idxOf d < ds.idxOf d')

/-- There is one such list. -/
theorem ByLength.unique {ds l l' : List Text} (h : ByLength ds l) (h' : ByLength ds l') : l = l' := by
  refine List.Perm.eq_of_pairwise ?_ h.inOrder h'.inOrder (h.perm.trans h'.perm.symm)
  intro d d' _ _ hlt hgt
  omega

/-- **Sorting is stable.** The delimiters of one length are in the order of the set. -/
theorem filter_longestFirst (ds : Delimiters) (n : Nat) :
    ds.longestFirst.filter (fun d => d.utf8Length = n) = ds.toList.filter fun d => d.utf8Length = n := by
  -- a list of texts of one length is sorted as it is
  have hsorted : (ds.toList.filter fun d => d.utf8Length = n).Pairwise (atLeastAsLong · ·) := by
    refine List.pairwise_of_forall_mem_list fun d hd e he => ?_
    have hlength : d.utf8Length = n := by simpa using (List.mem_filter.1 hd).2
    have hlength' : e.utf8Length = n := by simpa using (List.mem_filter.1 he).2
    exact decide_eq_true (by omega)
  have hkept : (ds.toList.filter fun d => d.utf8Length = n).Sublist ds.longestFirst := by
    rw [longestFirst_eq_mergeSort]
    exact List.sublist_mergeSort atLeastAsLong_trans atLeastAsLong_total hsorted List.filter_sublist
  have hfiltered := hkept.filter fun d => d.utf8Length = n
  rw [List.filter_filter] at hfiltered
  simp only [Bool.and_self] at hfiltered
  exact (hfiltered.eq_of_length ((longestFirst_perm ds).symm.filter _).length_eq).symm

/-- **The delimiters by falling length**, those of one length in the order of the set. -/
theorem eq_longestFirst_iff {ds : Delimiters} {l : List Text} :
    l = ds.longestFirst ↔ ByLength ds.toList l := by
  have hset := (ofList_eq_ok_iff_firstOccurrences.1 (ofList_toList ds)).2.inOrder
  have hsorted : ByLength ds.toList ds.longestFirst := by
    refine ⟨longestFirst_perm ds, List.pairwise_iff_forall_sublist.2 fun {d d'} hpair => ?_⟩
    have hle := List.pairwise_iff_forall_sublist.1 (pairwise_longestFirst ds) hpair
    rcases Nat.lt_or_eq_of_le hle with hlt | heq
    · exact .inl hlt
    · -- both are of one length, so they are in the order of the set
      have hsame := hpair.filter fun e => e.utf8Length = d.utf8Length
      rw [filter_longestFirst] at hsame
      have hpair' : [d, d'].Sublist ds.toList := by
        simpa [heq] using hsame.trans List.filter_sublist
      exact .inr ⟨heq, List.pairwise_iff_forall_sublist.1 hset hpair'⟩
  constructor
  · rintro rfl
    exact hsorted
  · intro h
    exact h.unique hsorted

/-- **Delimiters form an ordered set.** A list becomes a set if and only if none of its items is empty, and
    the set holds the items in order of first occurrence. Lists put together become the sets merged. No set
    is more than what its list becomes, whether it was declared in a header, given as an option or merged
    from others; so merging is associative, a set lacks nothing of itself, and the first set is the front
    of the merged one. -/
theorem lawful_ordered_set :
    (∀ (items : List Text) (e : HeaderError),
      ofList items = .error e ↔ [] ∈ items ∧ e = .emptyDelimiter)
    ∧ (∀ items : List Text, [] ∉ items →
      ∃ ds : Delimiters, ofList items = .ok ds ∧ ∀ l, l = ds.toList ↔ FirstOccurrences items l)
    ∧ (∀ (xs ys : List Text) (a b : Delimiters), ofList xs = .ok a → ofList ys = .ok b →
      ofList (xs ++ ys) = .ok (a.merge b))
    ∧ (∀ ds : Delimiters, ds.toList.Nodup ∧ [] ∉ ds.toList ∧ ofList ds.toList = .ok ds)
    ∧ (∀ a b c : Delimiters, (a.merge b).merge c = a.merge (b.merge c))
    ∧ (∀ a : Delimiters, a.merge a = a)
    ∧ (∀ a b : Delimiters, a.toList <+: (a.merge b).toList ∧ ∀ d, d ∈ a.merge b ↔ d ∈ a ∨ d ∈ b)
    ∧ ∀ (ds : Delimiters) (l : List Text), l = ds.longestFirst ↔ ByLength ds.toList l := by
  refine ⟨fun items e => ofList_eq_error_iff, ?_, ?_, ?_, merge_assoc, merge_self, ?_, ?_⟩
  · intro items hnonempty
    obtain ⟨ds, hds⟩ := exists_ofList hnonempty
    obtain ⟨-, hfirst⟩ := ofList_eq_ok_iff_firstOccurrences.1 hds
    refine ⟨ds, hds, fun l => ⟨?_, fun h => h.unique hfirst⟩⟩
    rintro rfl
    exact hfirst
  · intro xs ys a b ha hb
    exact ofList_append ha hb
  · intro ds
    exact ⟨ds.nodup, ds.nil_notMem, ofList_toList ds⟩
  · intro a b
    exact ⟨List.prefix_append _ _, fun d => mem_merge⟩
  · intro ds l
    exact eq_longestFirst_iff

/-- The lists overlap, and three delimiters of two bytes keep their order. -/
theorem lawful_ordered_set_overlapping :
    ∃ a b : Delimiters, ofList [['*'], ['*', '*'], ['*']] = .ok a ∧ ofList [['%', '%'], ['*', '*'], ['é']] = .ok b
      ∧ ofList ([['*'], ['*', '*'], ['*']] ++ [['%', '%'], ['*', '*'], ['é']]) = .ok (a.merge b)
      ∧ (a.merge b).longestFirst = [['*', '*'], ['%', '%'], ['é'], ['*']] := by
  obtain ⟨-, hofList, happend, -⟩ := lawful_ordered_set
  obtain ⟨a, ha, -⟩ := hofList [['*'], ['*', '*'], ['*']] (by decide)
  obtain ⟨b, hb, -⟩ := hofList [['%', '%'], ['*', '*'], ['é']] (by decide)
  have hmerged := happend _ _ _ _ ha hb
  refine ⟨a, b, ha, hb, hmerged, ?_⟩
  rw [longestFirst, (ofList_eq_ok_iff.1 hmerged).2]
  decide +kernel

end Delimiters

end StringCalculator
