import StringCalculator.Calculation
import StringCalculator.Proofs.Balanced

/-!
# `StringCalculator.Proofs.Header` — the header reader accepts its grammar

A header line is the marker, a body and the end of the line, which may be a carriage return and a line
feed. `Declares` is the grammar of bodies: one delimiter without brackets, or groups of balanced
delimiters. The reader knows no balance; it counts how many brackets are open and closes a group where
the count falls to zero. `closing?_eq_some_iff` says that this is the one place where what stands inside
the group is balanced, and everything else follows: the groups found are the only ones there are, so
reading and writing groups are inverse to each other.

## Contents
- **`closing?_eq_some_iff`**: where a group ends.
- **`groups_eq_ok_iff`**, **`flatMap_bracketed_injective`**: the groups of a body are read, and they are
  unique.
- **`Declares`**, **`body_eq_ok_iff`**: the grammar of bodies.
- **`LineOf`**, **`read_eq_ok_iff`**: the line of a body.
- **`outcome_takeHeader_groups`**: a header of groups; **`outcome_takeHeader_append`**: a header line in
  front of an expression.
- **`takeHeader_accepts`**: the whole header.
-/

namespace StringCalculator

namespace Header

/-! ## The end of a group -/

/-- What stands in front of the bracket that is found closes all open ones. -/
theorem balancedFrom_of_closing? {depth : Nat} {t inside rest : Text}
    (h : closing? depth t = some (inside, rest)) : BalancedFrom '[' ']' depth inside := by
  fun_induction closing? depth t generalizing inside with
  | case1 => cases h
  | case2 t =>
    cases h
    exact balancedFrom_nil.2 rfl
  | case3 depth t ih =>
    obtain ⟨⟨inside, rest⟩, hfound, hcut⟩ := Option.map_eq_some_iff.1 h
    cases hcut
    exact (balancedFrom_close (by decide)).2 ⟨depth, rfl, ih hfound⟩
  | case4 depth t ih =>
    obtain ⟨⟨inside, rest⟩, hfound, hcut⟩ := Option.map_eq_some_iff.1 h
    cases hcut
    exact (balancedFrom_open (by decide)).2 (ih hfound)
  | case5 depth c t hzero hsucc hopening ih =>
    obtain ⟨⟨inside, rest⟩, hfound, hcut⟩ := Option.map_eq_some_iff.1 h
    cases hcut
    have hclosing : c ≠ ']' := by
      cases depth with
      | zero => exact hzero rfl
      | succ depth => exact hsucc depth rfl
    exact (balancedFrom_other hopening hclosing).2 (ih hfound)

/-- Behind what closes all open brackets the next bracket is found, whatever follows it. -/
theorem closing?_append {depth : Nat} {inside : Text} (h : BalancedFrom '[' ']' depth inside)
    (rest : Text) : closing? depth (inside ++ ']' :: rest) = some (inside, rest) := by
  induction inside generalizing depth with
  | nil =>
    obtain rfl := balancedFrom_nil.1 h
    rfl
  | cons c inside ih =>
    rw [List.cons_append]
    by_cases hopening : c = '['
    · subst hopening
      rw [closing?, ih ((balancedFrom_open (by decide)).1 h)]
      rfl
    · by_cases hclosing : c = ']'
      · subst hclosing
        obtain ⟨outer, rfl, hinside⟩ := (balancedFrom_close (by decide)).1 h
        rw [closing?, ih hinside]
        rfl
      · have hinside := ih ((balancedFrom_other hopening hclosing).1 h)
        simp [closing?, hclosing, hinside]

/-- **A group ends where its brackets match.** There is one such place at most. -/
theorem closing?_eq_some_iff {depth : Nat} {t inside rest : Text} :
    closing? depth t = some (inside, rest)
      ↔ t = inside ++ ']' :: rest ∧ BalancedFrom '[' ']' depth inside := by
  constructor
  · intro h
    exact ⟨eq_append_of_closing? h, balancedFrom_of_closing? h⟩
  · rintro ⟨rfl, h⟩
    exact closing?_append h rest

/-! ## Groups -/

/-- The group of a delimiter. -/
def bracketed (s : Text) : Text := '[' :: s ++ [']']

/-- A delimiter that can stand in a group: it is not empty, and its own brackets match. -/
def Groupable (s : Text) : Prop := s ≠ [] ∧ Balanced '[' ']' s

instance (s : Text) : Decidable (Groupable s) := inferInstanceAs (Decidable (_ ∧ _))

/-- A group ends behind its delimiter. -/
theorem Groupable.closing?_eq {s : Text} (h : Groupable s) (t : Text) :
    closing? 0 (s ++ ']' :: t) = some (s, t) :=
  closing?_append (balancedFrom_zero_iff.2 h.2) t

/-- One group in front of anything is read as its delimiter. -/
theorem groups_bracketed_append {s : Text} (h : Groupable s) (t : Text) :
    groups (bracketed s ++ t) = (groups t).map (s :: ·) := by
  have hclosing := h.closing?_eq t
  have happend : bracketed s ++ t = '[' :: (s ++ ']' :: t) := by simp [bracketed]
  rw [happend, groups]
  split
  · rename_i hnone
    rw [hclosing] at hnone
    cases hnone
  · rename_i hempty
    rw [hclosing] at hempty
    cases hempty
    exact absurd rfl h.1
  · rename_i hfound
    rw [hclosing] at hfound
    cases hfound
    rfl

/-- Groups in front of anything are read as their delimiters. -/
theorem groups_flatMap_bracketed_append {ss : List Text} (h : ∀ s ∈ ss, Groupable s) (t : Text) :
    groups (ss.flatMap bracketed ++ t) = (groups t).map (ss ++ ·) := by
  induction ss with
  | nil =>
    show groups t = (groups t).map fun found => found
    cases groups t <;> rfl
  | cons s ss ih =>
    have htail := ih fun s' hs' => h s' (List.mem_cons_of_mem s hs')
    rw [List.flatMap_cons, List.append_assoc, groups_bracketed_append (h s List.mem_cons_self), htail]
    cases groups t <;> rfl

/-- Groups that were written are read. -/
theorem groups_flatMap_bracketed {ss : List Text} (h : ∀ s ∈ ss, Groupable s) :
    groups (ss.flatMap bracketed) = .ok ss := by
  have hnil : groups [] = .ok [] := by rw [groups]
  have hread := groups_flatMap_bracketed_append h []
  rw [List.append_nil, hnil] at hread
  rw [hread]
  exact congrArg Except.ok (List.append_nil ss)

/-- Among groups whose brackets match, the first empty one is the fault. -/
theorem groups_flatMap_bracketed_of_nil_mem {ss : List Text} (h : ∀ s ∈ ss, Balanced '[' ']' s)
    (hempty : [] ∈ ss) : groups (ss.flatMap bracketed) = .error .emptyDelimiter := by
  induction ss with
  | nil => cases hempty
  | cons s ss ih =>
    rw [List.flatMap_cons]
    by_cases hs : s = []
    · subst hs
      show groups ('[' :: ']' :: ss.flatMap bracketed) = _
      rw [groups]
      split
      · rename_i hnone
        cases hnone
      · rfl
      · rename_i hfound
        cases hfound
        contradiction
    · have htail := ih (fun s' hs' => h s' (List.mem_cons_of_mem s hs')) (List.mem_of_ne_of_mem (Ne.symm hs) hempty)
      rw [groups_bracketed_append ⟨hs, h s List.mem_cons_self⟩, htail]
      rfl

/-- Groups that are read were written. -/
theorem eq_flatMap_bracketed_of_groups {b : Text} {ss : List Text} (h : groups b = .ok ss) :
    b = ss.flatMap bracketed ∧ ∀ s ∈ ss, Groupable s := by
  fun_induction groups b generalizing ss with
  | case1 =>
    cases h
    simp
  | case2 => cases h
  | case3 => cases h
  | case4 t inside rest hne hclosing ih =>
    obtain ⟨rfl, hbalanced⟩ := closing?_eq_some_iff.1 hclosing
    cases hgroups : groups rest with
    | error reason =>
      rw [hgroups] at h
      cases h
    | ok ss' =>
      rw [hgroups] at h
      cases h
      obtain ⟨rfl, hss⟩ := ih hgroups
      refine ⟨by simp [bracketed], ?_⟩
      intro s hs
      rcases List.mem_cons.1 hs with rfl | hs
      · exact ⟨by simpa using hne, balancedFrom_zero_iff.1 hbalanced⟩
      · exact hss s hs
  | case5 => cases h

/-- **Reading and writing groups are inverse.** -/
theorem groups_eq_ok_iff {b : Text} {ss : List Text} :
    groups b = .ok ss ↔ b = ss.flatMap bracketed ∧ ∀ s ∈ ss, Groupable s := by
  constructor
  · exact eq_flatMap_bracketed_of_groups
  · rintro ⟨rfl, h⟩
    exact groups_flatMap_bracketed h

/-- **A body has at most one list of groups.** -/
theorem flatMap_bracketed_injective {ss ss' : List Text} (h : ∀ s ∈ ss, Groupable s)
    (h' : ∀ s ∈ ss', Groupable s) (heq : ss.flatMap bracketed = ss'.flatMap bracketed) : ss = ss' := by
  have hread := groups_flatMap_bracketed h
  rw [heq, groups_flatMap_bracketed h'] at hread
  exact (Except.ok.inj hread).symm

/-! ## Bodies -/

/-- **The grammar of bodies**, with the delimiters that a body declares: one delimiter without brackets,
    or groups, whose delimiters are taken once each in order of first appearance. -/
inductive Declares : Text → List Text → Prop
  | plain {s} : s ≠ [] → '[' ∉ s → ']' ∉ s → Declares s [s]
  | groups {ss} : ss ≠ [] → (∀ s ∈ ss, Groupable s) → Declares (ss.flatMap bracketed) ss.eraseDups

/-- Groups start with an opening bracket and end with a closing one. -/
theorem ends_flatMap_bracketed {ss : List Text} (h : ss ≠ []) :
    (ss.flatMap bracketed).head? = some '[' ∧ (ss.flatMap bracketed).getLast? = some ']' := by
  constructor
  · obtain ⟨s, ss, rfl⟩ := List.exists_cons_of_ne_nil h
    rfl
  · rw [← List.dropLast_append_getLast h, List.flatMap_append, List.flatMap_singleton, bracketed,
      ← List.append_assoc, List.getLast?_concat]

/-- How a body is read, by its two ends. -/
theorem body_eq (b : Text) :
    body b = if b = [] then .error .emptyDelimiter
      else if b.head? = some '[' then
        if b.getLast? = some ']' then groups b >>= Delimiters.ofList else .error .mismatchedBrackets
      else if b.getLast? = some ']' then .error .mismatchedBrackets
      else if '[' ∈ b ∨ ']' ∈ b then .error .bracketInPlainDelimiter
      else Delimiters.ofList [b] := by
  unfold body
  have hfalse (c : Char) (end? : Option Char) (h : end? ≠ some c) : (end? == some c) = false :=
    beq_eq_false_iff_ne.2 h
  by_cases hhead : b.head? = some '['
  · by_cases hlast : b.getLast? = some ']'
    · rw [hhead, hlast]
      rfl
    · rw [hhead, hfalse _ _ hlast, if_neg hlast]
      rfl
  · by_cases hlast : b.getLast? = some ']'
    · rw [hlast, hfalse _ _ hhead, if_neg hhead]
      rfl
    · rw [hfalse _ _ hhead, hfalse _ _ hlast, if_neg hhead, if_neg hlast]

/-- A body without brackets is one delimiter. -/
theorem body_of_notMem {b : Text} (hne : b ≠ []) (hopening : '[' ∉ b) (hclosing : ']' ∉ b) :
    body b = Delimiters.ofList [b] := by
  have hhead : b.head? ≠ some '[' := fun h => hopening (List.mem_of_head? h)
  have hlast : b.getLast? ≠ some ']' := fun h => hclosing (List.mem_of_getLast? h)
  have hnone : ¬('[' ∈ b ∨ ']' ∈ b) := fun h => h.elim hopening hclosing
  rw [body_eq, if_neg hne, if_neg hhead, if_neg hlast, if_neg hnone]

/-- A body of groups declares what they hold, and is refused if one of them is empty. -/
theorem body_flatMap_bracketed {ss : List Text} (hne : ss ≠ []) (h : ∀ s ∈ ss, Balanced '[' ']' s) :
    body (ss.flatMap bracketed) = Delimiters.ofList ss := by
  obtain ⟨hhead, hlast⟩ := ends_flatMap_bracketed hne
  have hbody : ss.flatMap bracketed ≠ [] := by
    intro hnil
    rw [hnil] at hhead
    cases hhead
  rw [body_eq, if_neg hbody, if_pos hhead, if_pos hlast]
  by_cases hempty : [] ∈ ss
  · rw [groups_flatMap_bracketed_of_nil_mem h hempty, Delimiters.ofList_eq_error_iff.2 ⟨hempty, rfl⟩]
    rfl
  · have hgroupable : ∀ s ∈ ss, Groupable s := by
      intro s hs
      exact ⟨fun hnil => hempty (hnil ▸ hs), h s hs⟩
    rw [groups_flatMap_bracketed hgroupable]
    rfl

/-- What is read from a body is declared by it. -/
theorem declares_of_body {b : Text} {ds : Delimiters} (h : body b = .ok ds) :
    Declares b ds.toList := by
  rw [body_eq] at h
  split at h
  · cases h
  · rename_i hne
    split at h
    · split at h
      · -- brackets at both ends
        cases hgroups : groups b with
        | error reason =>
          rw [hgroups] at h
          cases h
        | ok ss =>
          rw [hgroups] at h
          obtain ⟨-, hds⟩ := Delimiters.ofList_eq_ok_iff.1 h
          obtain ⟨rfl, hss⟩ := groups_eq_ok_iff.1 hgroups
          rw [hds]
          refine .groups ?_ hss
          rintro rfl
          exact hne rfl
      · cases h
    · split at h
      · cases h
      · split at h
        · cases h
        · -- no bracket at all
          rename_i hnone
          obtain ⟨-, hds⟩ := Delimiters.ofList_eq_ok_iff.1 h
          rw [hds]
          exact .plain hne (fun hmem => hnone (.inl hmem)) fun hmem => hnone (.inr hmem)

/-- **Bodies are read by their grammar.** -/
theorem body_eq_ok_iff {b : Text} {ds : Delimiters} : body b = .ok ds ↔ Declares b ds.toList := by
  constructor
  · exact declares_of_body
  · intro h
    generalize hlist : ds.toList = items at h
    cases h with
    | plain hne hopening hclosing =>
      rw [body_of_notMem hne hopening hclosing]
      exact Delimiters.ofList_eq_ok_iff.2 ⟨by simpa using hne.symm, hlist⟩
    | groups hne hss =>
      rw [body_flatMap_bracketed hne fun s hs => (hss s hs).2]
      refine Delimiters.ofList_eq_ok_iff.2 ⟨?_, hlist⟩
      intro hmem
      exact (hss [] hmem).1 rfl

/-! ## Lines -/

/-- The line holds the body: behind it stands a carriage return, or nothing if the body does not end
    with one. -/
def LineOf (line b : Text) : Prop := line = b ++ ['\r'] ∨ (line = b ∧ b.getLast? ≠ some '\r')

/-- One carriage return is taken off, and no more. -/
theorem withoutReturn_eq_iff {line b : Text} : withoutReturn line = b ↔ LineOf line b := by
  unfold withoutReturn LineOf
  by_cases hreturn : line.getLast? = some '\r'
  · rw [if_pos hreturn]
    obtain ⟨init, rfl⟩ := List.getLast?_eq_some_iff.1 hreturn
    rw [List.dropLast_concat]
    constructor
    · rintro rfl
      exact .inl rfl
    · rintro (hline | ⟨rfl, hnone⟩)
      · exact (List.append_inj' hline rfl).1
      · exact absurd hreturn hnone
  · rw [if_neg hreturn]
    constructor
    · rintro rfl
      exact .inr ⟨rfl, hreturn⟩
    · rintro (rfl | ⟨rfl, -⟩)
      · exact absurd List.getLast?_concat hreturn
      · rfl

/-- **What is read behind the marker**: the line up to the first line feed and its body. -/
theorem read_eq_ok_iff {t e : Text} {ds : Delimiters} :
    read t = .ok (ds, e)
      ↔ ∃ line b, t = line ++ '\n' :: e ∧ '\n' ∉ line ∧ LineOf line b ∧ Declares b ds.toList := by
  have hbody {line rest : Text} : (body (withoutReturn line)).map (fun ds => (ds, rest)) = .ok (ds, e)
      ↔ body (withoutReturn line) = .ok ds ∧ rest = e := by
    cases body (withoutReturn line) <;> simp [Except.map]
  unfold read
  constructor
  · intro h
    cases hsplit : splitLine? t with
    | none =>
      rw [hsplit] at h
      cases h
    | some cut =>
      rw [hsplit] at h
      obtain ⟨hds, rfl⟩ := hbody.1 h
      obtain ⟨ht, hfree⟩ := splitLine?_eq_some_iff.1 hsplit
      exact ⟨_, _, ht, hfree, withoutReturn_eq_iff.1 rfl, body_eq_ok_iff.1 hds⟩
  · rintro ⟨line, b, ht, hfree, hline, hb⟩
    rw [splitLine?_eq_some_iff.2 ⟨ht, hfree⟩]
    refine hbody.2 ⟨?_, rfl⟩
    rw [withoutReturn_eq_iff.2 hline]
    exact body_eq_ok_iff.2 hb

end Header

/-! ## Headers -/

open Header

/-- A text without the marker is an expression as a whole. -/
theorem takeHeader_of_unmarked {t : Text} (h : ¬['/', '/'] <+: t) (ds : Delimiters) :
    takeHeader ds t = pure (ds, t) := by
  unfold takeHeader
  split
  · exact absurd (List.prefix_append ['/', '/'] _) h
  · rfl

theorem takeHeader_of_notMem {t : Text} (h : '/' ∉ t) (ds : Delimiters) :
    takeHeader ds t = pure (ds, t) := by
  apply takeHeader_of_unmarked
  intro hmarker
  exact h (hmarker.subset List.mem_cons_self)

/-- Behind the marker the header is read, and the given delimiters do not count. -/
theorem outcome_takeHeader_marker (ds : Delimiters) (t : Text) :
    (takeHeader ds ('/' :: '/' :: t)).outcome = read t := by
  rw [takeHeader, Logged.outcome_bind]
  show (read t).bind _ = _
  cases read t <;> rfl

/-- The header that applies to a text, by its grammar. -/
theorem outcome_takeHeader_eq_ok_iff {raw e : Text} {defaults ds : Delimiters} :
    (takeHeader defaults raw).outcome = .ok (ds, e)
      ↔ (¬['/', '/'] <+: raw ∧ ds = defaults ∧ e = raw)
        ∨ ∃ line b, raw = '/' :: '/' :: line ++ '\n' :: e ∧ '\n' ∉ line ∧ LineOf line b
          ∧ Declares b ds.toList := by
  by_cases hmarker : ['/', '/'] <+: raw
  · obtain ⟨t, rfl⟩ := hmarker
    show (takeHeader defaults ('/' :: '/' :: t)).outcome = _ ↔ _
    rw [outcome_takeHeader_marker, read_eq_ok_iff]
    simp
  · rw [takeHeader_of_unmarked hmarker]
    constructor
    · intro h
      cases h
      exact .inl ⟨hmarker, rfl, rfl⟩
    · rintro (⟨-, rfl, rfl⟩ | ⟨line, b, rfl, -⟩)
      · rfl
      · exact absurd (List.prefix_append ['/', '/'] _) hmarker

/-- **Groups in a header declare what they hold**, whether or not a carriage return ends their line. An
    empty group is refused. -/
theorem outcome_takeHeader_groups {ss : List Text} (hne : ss ≠ [])
    (h : ∀ s ∈ ss, Balanced '[' ']' s ∧ '\n' ∉ s) (defaults : Delimiters) {eol : Text}
    (heol : eol = ['\n'] ∨ eol = ['\r', '\n']) (e : Text) :
    (takeHeader defaults ('/' :: '/' :: ss.flatMap bracketed ++ eol ++ e)).outcome
      = (Delimiters.ofList ss).map fun ds => (ds, e) := by
  have hbody : body (ss.flatMap bracketed) = Delimiters.ofList ss :=
    body_flatMap_bracketed hne fun s hs => (h s hs).1
  have hfree : '\n' ∉ ss.flatMap bracketed := by
    intro hmem
    obtain ⟨s, hs, hmem⟩ := List.mem_flatMap.1 hmem
    have hnone := (h s hs).2
    simp [bracketed, hnone] at hmem
  have hlast : (ss.flatMap bracketed).getLast? ≠ some '\r' := by
    rw [(ends_flatMap_bracketed hne).2]
    decide
  obtain ⟨line, hline, hlineFree, ht⟩ : ∃ line, LineOf line (ss.flatMap bracketed) ∧ '\n' ∉ line
      ∧ ss.flatMap bracketed ++ eol ++ e = line ++ '\n' :: e := by
    rcases heol with rfl | rfl
    · exact ⟨ss.flatMap bracketed, .inr ⟨rfl, hlast⟩, hfree, by simp⟩
    · exact ⟨ss.flatMap bracketed ++ ['\r'], .inl rfl, by simpa using hfree, by simp⟩
  show (takeHeader defaults ('/' :: '/' :: (ss.flatMap bracketed ++ eol ++ e))).outcome = _
  rw [outcome_takeHeader_marker, ht, Header.read, splitLine?_eq_some_iff.2 ⟨rfl, hlineFree⟩]
  show (body (withoutReturn line)).map _ = _
  rw [withoutReturn_eq_iff.2 hline, hbody]

/-- Delimiters that can stand in groups are given back. -/
theorem outcome_takeHeader_bracketed {ss : List Text} (hne : ss ≠ [])
    (h : ∀ s ∈ ss, Groupable s ∧ '\n' ∉ s) (defaults : Delimiters) {eol : Text}
    (heol : eol = ['\n'] ∨ eol = ['\r', '\n']) (e : Text) :
    ∃ ds : Delimiters, ds.toList = ss.eraseDups
      ∧ (takeHeader defaults ('/' :: '/' :: ss.flatMap bracketed ++ eol ++ e)).outcome = .ok (ds, e) := by
  rw [outcome_takeHeader_groups hne (fun s hs => ⟨(h s hs).1.2, (h s hs).2⟩) defaults heol e]
  cases hlist : Delimiters.ofList ss with
  | error reason => exact absurd rfl (h [] (Delimiters.ofList_eq_error_iff.1 hlist).1).1.1
  | ok ds => exact ⟨ds, (Delimiters.ofList_eq_ok_iff.1 hlist).2, rfl⟩

/-- A header line that is read to its end declares the same delimiters in front of any expression. -/
theorem outcome_takeHeader_append {h : Text} {defaults ds : Delimiters} (hmarker : ['/', '/'] <+: h)
    (hheader : (takeHeader defaults h).outcome = .ok (ds, [])) (e : Text) :
    (takeHeader defaults (h ++ e)).outcome = .ok (ds, e) := by
  rcases outcome_takeHeader_eq_ok_iff.1 hheader with ⟨hunmarked, -⟩ | ⟨line, b, rfl, hfree, hline, hdeclares⟩
  · exact absurd hmarker hunmarked
  · apply outcome_takeHeader_eq_ok_iff.2
    exact .inr ⟨line, b, by simp, hfree, hline, hdeclares⟩

/-- **Headers are read by their grammar**, and nothing else is. A text without the marker is taken as a
    whole under the given delimiters. With the marker it needs a line feed, and up to the first one a
    body that declares the delimiters. In particular, any delimiters that can stand in groups are given
    back when they are written as groups, and a body has at most one list of groups. -/
theorem takeHeader_accepts :
    (∀ (raw e : Text) (defaults ds : Delimiters),
      (takeHeader defaults raw).outcome = .ok (ds, e)
        ↔ (¬['/', '/'] <+: raw ∧ ds = defaults ∧ e = raw)
          ∨ ∃ line b, raw = '/' :: '/' :: line ++ '\n' :: e ∧ '\n' ∉ line ∧ LineOf line b
            ∧ Declares b ds.toList)
    ∧ (∀ (ss : List Text) (defaults : Delimiters) (eol e : Text), ss ≠ [] →
      (∀ s ∈ ss, Groupable s ∧ '\n' ∉ s) → eol = ['\n'] ∨ eol = ['\r', '\n'] →
      ∃ ds : Delimiters, ds.toList = ss.eraseDups
        ∧ (takeHeader defaults ('/' :: '/' :: ss.flatMap bracketed ++ eol ++ e)).outcome = .ok (ds, e))
    ∧ ∀ ss ss' : List Text, (∀ s ∈ ss, Groupable s) → (∀ s ∈ ss', Groupable s) →
      ss.flatMap bracketed = ss'.flatMap bracketed → ss = ss' := by
  refine ⟨?_, ?_, ?_⟩
  · intro raw e defaults ds
    exact outcome_takeHeader_eq_ok_iff
  · intro ss defaults eol e hne h heol
    exact outcome_takeHeader_bracketed hne h defaults heol e
  · intro ss ss' h h'
    exact flatMap_bracketed_injective h h'

/-- A delimiter with brackets of its own is mentioned twice, and a carriage return ends the line. -/
theorem takeHeader_accepts_nested :
    ∃ ds : Delimiters, ds.toList = ["a[é]".toList, [';']]
      ∧ (takeHeader .standard "//[a[é]][;][a[é]]\r\n1".toList).outcome = .ok (ds, ['1']) :=
  takeHeader_accepts.2.1 ["a[é]".toList, [';'], "a[é]".toList] .standard ['\r', '\n'] ['1']
    (by simp) (by decide +kernel) (.inr rfl)

end StringCalculator
