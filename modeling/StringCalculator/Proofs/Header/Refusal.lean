import StringCalculator.Proofs.Header

/-!
# `StringCalculator.Proofs.Header.Refusal` — why a header is refused

A header may have several faults at once, and the reason that is given is a matter of order: first the end
of the line, then the two ends of the body, and between two brackets the groups from left to right.
`RefusedFor` tells for each reason the bodies that it is given for, without that order: the conditions
exclude each other.

Groups are read as far as they go. What they leave (`Leaves`) is determined by the body, since a group ends
at one place only, and its first two characters tell what is wrong with it: either it begins with an empty
group, or no bracket closes its first one, or it begins with no bracket at all.

## Contents
- **`Leaves`**, **`existsUnique_leaves`**: what is left of a body when groups are taken from its front.
- **`groups_of_not_begins`**: what is left and not empty is refused by its first two characters.
- **`RefusedFor`**, **`body_eq_error_iff`**: the reasons for bodies.
- **`takeHeader_refuses`**: the reasons for headers.
-/

namespace StringCalculator

namespace Header

/-! ## What groups leave -/

/-- Groups, as many as there are, are taken from the front of the body, and the rest is left. -/
def Leaves (b rest : Text) : Prop :=
  ∃ ss : List Text, b = ss.flatMap bracketed ++ rest ∧ (∀ s ∈ ss, Groupable s)
    ∧ ∀ s, Groupable s → ¬bracketed s <+: rest

/-- A text begins with one group at most. -/
theorem bracketed_append_inj {s s' t t' : Text} (h : Groupable s) (h' : Groupable s')
    (heq : bracketed s ++ t = bracketed s' ++ t') : s = s' ∧ t = t' := by
  have hinside : s ++ ']' :: t = s' ++ ']' :: t' := by simpa [bracketed] using heq
  have hcut := h.closing?_eq t
  rw [hinside, h'.closing?_eq] at hcut
  cases hcut
  exact ⟨rfl, rfl⟩

/-- Groups can be taken until none is left to be taken. -/
theorem exists_leaves (b : Text) : ∃ rest, Leaves b rest := by
  -- behind a group the rest is no tail: the induction is on the length
  induction hn : b.length using Nat.strongRecOn generalizing b with
  | ind n ih =>
    subst hn
    by_cases hbegins : ∃ s, Groupable s ∧ bracketed s <+: b
    · obtain ⟨s, hs, t, rfl⟩ := hbegins
      have hshorter : t.length < (bracketed s ++ t).length := by
        simp only [bracketed, List.length_append, List.length_cons]
        omega
      obtain ⟨rest, ss, rfl, hss, hnone⟩ := ih _ hshorter t rfl
      refine ⟨rest, s :: ss, ?_, List.forall_mem_cons.2 ⟨hs, hss⟩, hnone⟩
      rw [List.flatMap_cons, List.append_assoc]
    · refine ⟨b, [], rfl, by simp, ?_⟩
      intro s hs hfront
      exact hbegins ⟨s, hs, hfront⟩

/-- There is no choice in taking them. -/
theorem Leaves.unique {b rest rest' : Text} (h : Leaves b rest) (h' : Leaves b rest') : rest = rest' := by
  obtain ⟨ss, rfl, hss, hnone⟩ := h
  obtain ⟨ss', heq, hss', hnone'⟩ := h'
  induction ss generalizing ss' with
  | nil =>
    cases ss' with
    | nil => exact heq
    | cons s ss' =>
      -- the rest would begin with a group
      refine absurd ⟨ss'.flatMap bracketed ++ rest', ?_⟩ (hnone s (hss' s List.mem_cons_self))
      rw [← List.append_assoc, ← List.flatMap_cons]
      exact heq.symm
  | cons s ss ih =>
    cases ss' with
    | nil =>
      refine absurd ⟨ss.flatMap bracketed ++ rest, ?_⟩ (hnone' s (hss s List.mem_cons_self))
      rw [← List.append_assoc, ← List.flatMap_cons]
      exact heq
    | cons s' ss' =>
      obtain ⟨hs, hss⟩ := List.forall_mem_cons.1 hss
      obtain ⟨hs', hss'⟩ := List.forall_mem_cons.1 hss'
      rw [List.flatMap_cons, List.flatMap_cons, List.append_assoc, List.append_assoc] at heq
      exact ih hss ss' (bracketed_append_inj hs hs' heq).2 hss'

/-- **Every body leaves one rest.** -/
theorem existsUnique_leaves (b : Text) : ∃ rest, Leaves b rest ∧ ∀ rest', Leaves b rest' → rest' = rest := by
  obtain ⟨rest, h⟩ := exists_leaves b
  exact ⟨rest, h, fun _ h' => h'.unique h⟩

/-- An empty group is none that can be taken. -/
theorem not_begins_of_empty {t : Text} (h : ['[', ']'] <+: t) (s : Text) (hs : Groupable s) :
    ¬bracketed s <+: t := by
  rintro ⟨t', rfl⟩
  obtain ⟨c, s, rfl⟩ := List.exists_cons_of_ne_nil hs.1
  obtain ⟨t, heq⟩ := h
  -- its closing bracket would be the first character inside
  obtain rfl : ']' = c := (List.cons.inj (List.cons.inj heq).2).1
  obtain ⟨outer, houter, -⟩ := (balancedFrom_close (by decide)).1 (balancedFrom_zero_iff.2 hs.2)
  cases houter

/-- **The first two characters tell the reason** where no group begins. -/
theorem groups_of_not_begins {t : Text} (hne : t ≠ []) (h : ∀ s, Groupable s → ¬bracketed s <+: t) :
    groups t = .error (if ['[', ']'] <+: t then .emptyDelimiter else .bracketSyntax) := by
  fun_cases groups t with
  | case1 => exact absurd rfl hne
  | case2 t hclosing =>
    -- no bracket closes the first one
    rw [if_neg]
    rintro ⟨rest, hfront⟩
    obtain rfl := List.cons.inj hfront |>.2
    cases hclosing
  | case3 t rest hclosing =>
    obtain ⟨rfl, -⟩ := closing?_eq_some_iff.1 hclosing
    rw [if_pos]
    exact ⟨rest, rfl⟩
  | case4 t inside rest hinside hclosing =>
    -- that would be a group
    obtain ⟨rfl, hbalanced⟩ := closing?_eq_some_iff.1 hclosing
    refine absurd ⟨rest, ?_⟩ (h inside ⟨by simpa using hinside, balancedFrom_zero_iff.1 hbalanced⟩)
    simp [bracketed]
  | case5 t hnil hopening =>
    rw [if_neg]
    rintro ⟨rest, rfl⟩
    exact hopening _ rfl

/-! ## Bodies -/

/-- **The bodies that are refused for a reason**, with the rest that their groups leave. -/
def RefusedFor (b rest : Text) : HeaderError → Prop
  | .missingTerminator => False
  | .emptyDelimiter => b = [] ∨ (b.head? = some '[' ∧ b.getLast? = some ']' ∧ ['[', ']'] <+: rest)
  | .mismatchedBrackets => b ≠ [] ∧ (b.head? = some '[' ↔ b.getLast? ≠ some ']')
  | .bracketInPlainDelimiter =>
    b ≠ [] ∧ b.head? ≠ some '[' ∧ b.getLast? ≠ some ']' ∧ ('[' ∈ b ∨ ']' ∈ b)
  | .bracketSyntax => b.head? = some '[' ∧ b.getLast? = some ']' ∧ rest ≠ [] ∧ ¬['[', ']'] <+: rest

/-- Between brackets a body is refused for what its groups leave. -/
theorem body_eq_error_iff_of_brackets {b rest : Text} {reason : HeaderError} (hhead : b.head? = some '[')
    (hlast : b.getLast? = some ']') (h : Leaves b rest) :
    body b = .error reason
      ↔ rest ≠ [] ∧ reason = if ['[', ']'] <+: rest then .emptyDelimiter else .bracketSyntax := by
  obtain ⟨ss, rfl, hss, hnone⟩ := h
  have hne : ss.flatMap bracketed ++ rest ≠ [] := by
    intro hnil
    rw [hnil] at hhead
    cases hhead
  rw [body_eq, if_neg hne, if_pos hhead, if_pos hlast, groups_flatMap_bracketed_append hss]
  by_cases hrest : rest = []
  · -- nothing is left, and no group is empty
    subst hrest
    have hnonempty : [] ∉ ss ++ [] := by
      rw [List.append_nil]
      exact fun hmem => (hss [] hmem).1 rfl
    obtain ⟨ds, hds⟩ := Delimiters.exists_ofList hnonempty
    have hread : ((groups []).map (ss ++ ·) >>= Delimiters.ofList) = .ok ds := by
      rw [groups]
      exact hds
    rw [hread]
    simp
  · rw [groups_of_not_begins hrest hnone]
    constructor
    · intro herror
      cases herror
      exact ⟨hrest, rfl⟩
    · rintro ⟨-, rfl⟩
      rfl

/-- **Why a body is refused.** The two ends of the body tell which of its characters matter. -/
theorem body_eq_error_iff {b rest : Text} (h : Leaves b rest) (reason : HeaderError) :
    body b = .error reason ↔ RefusedFor b rest reason := by
  by_cases hnil : b = []
  · rw [body_eq, if_pos hnil, hnil]
    cases reason <;> simp [RefusedFor]
  by_cases hhead : b.head? = some '['
  · by_cases hlast : b.getLast? = some ']'
    · rw [body_eq_error_iff_of_brackets hhead hlast h]
      have hbegins : ['[', ']'] <+: rest → rest ≠ [] := fun hfront => hfront.ne_nil (by simp)
      by_cases hempty : ['[', ']'] <+: rest
      · cases reason <;> simp [RefusedFor, hnil, hhead, hlast, hempty, hbegins hempty]
      · cases reason <;> simp [RefusedFor, hnil, hhead, hlast, hempty]
    · rw [body_eq, if_neg hnil, if_pos hhead, if_neg hlast]
      cases reason <;> simp [RefusedFor, hnil, hhead, hlast]
  · by_cases hlast : b.getLast? = some ']'
    · rw [body_eq, if_neg hnil, if_neg hhead, if_pos hlast]
      cases reason <;> simp [RefusedFor, hnil, hhead, hlast]
    · by_cases hbracket : '[' ∈ b ∨ ']' ∈ b
      · rw [body_eq, if_neg hnil, if_neg hhead, if_neg hlast, if_pos hbracket]
        cases reason <;> simp [RefusedFor, hnil, hhead, hlast, hbracket]
      · obtain ⟨ds, hds, -⟩ := Delimiters.exists_ofList_singleton hnil
        rw [body_eq, if_neg hnil, if_neg hhead, if_neg hlast, if_neg hbracket, hds]
        cases reason <;> simp [RefusedFor, hnil, hhead, hlast, hbracket]

/-! ## Lines -/

/-- Without a line feed there is no header, and no body is refused for the lack of one. -/
theorem read_eq_missingTerminator_iff {t : Text} : read t = .error .missingTerminator ↔ '\n' ∉ t := by
  rw [read]
  cases hsplit : splitLine? t with
  | none =>
    refine ⟨fun _ hmem => ?_, fun _ => rfl⟩
    obtain ⟨line, e, ht, hfree⟩ := List.eq_append_cons_of_mem hmem
    rw [splitLine?_eq_some_iff.2 ⟨ht, hfree⟩] at hsplit
    cases hsplit
  | some cut =>
    obtain ⟨line, e⟩ := cut
    obtain ⟨rfl, -⟩ := splitLine?_eq_some_iff.1 hsplit
    obtain ⟨rest, hleaves⟩ := exists_leaves (withoutReturn line)
    have hbody := (body_eq_error_iff hleaves .missingTerminator).1
    simp only [RefusedFor, imp_false] at hbody
    show (body (withoutReturn line)).map _ = _ ↔ _
    cases hread : body (withoutReturn line) with
    | error reason =>
      have hne : reason ≠ .missingTerminator := by
        rintro rfl
        exact hbody hread
      simp [Except.map, hne]
    | ok ds => simp [Except.map]

/-- With one, the header is refused for its body. -/
theorem read_eq_error_iff {line b rest : Text} (hfree : '\n' ∉ line) (hline : LineOf line b)
    (h : Leaves b rest) (e : Text) (reason : HeaderError) :
    read (line ++ '\n' :: e) = .error reason ↔ RefusedFor b rest reason := by
  rw [read, splitLine?_eq_some_iff.2 ⟨rfl, hfree⟩]
  show (body (withoutReturn line)).map _ = _ ↔ _
  rw [withoutReturn_eq_iff.2 hline, ← body_eq_error_iff h]
  cases body b <;> simp [Except.map]

end Header

open Header

/-- **Every header that is refused is refused for the right reason.** Without a line feed behind the
    marker the end of the line is missing, and for no other header. With one, the body and the rest that
    its groups leave are determined by the line, and they alone tell the reason: neither the delimiters
    that would apply otherwise nor the expression behind the line matter. -/
theorem takeHeader_refuses :
    (∀ (t : Text) (defaults : Delimiters),
      (takeHeader defaults ('/' :: '/' :: t)).outcome = .error .missingTerminator ↔ '\n' ∉ t)
    ∧ ∀ line : Text, '\n' ∉ line → ∃ b rest, LineOf line b ∧ Leaves b rest
      ∧ (∀ b', LineOf line b' → b' = b) ∧ (∀ rest', Leaves b rest' → rest' = rest)
      ∧ ∀ (reason : HeaderError) (e : Text) (defaults : Delimiters),
        (takeHeader defaults ('/' :: '/' :: line ++ '\n' :: e)).outcome = .error reason
          ↔ RefusedFor b rest reason := by
  constructor
  · intro t defaults
    rw [outcome_takeHeader_marker]
    exact read_eq_missingTerminator_iff
  · intro line hfree
    have hline := withoutReturn_eq_iff.1 (rfl : withoutReturn line = withoutReturn line)
    obtain ⟨rest, hleaves, hunique⟩ := existsUnique_leaves (withoutReturn line)
    refine ⟨withoutReturn line, rest, hline, hleaves, ?_, hunique, ?_⟩
    · intro b' hb'
      exact (withoutReturn_eq_iff.2 hb').symm
    · intro reason e defaults
      show (takeHeader defaults ('/' :: '/' :: (line ++ '\n' :: e))).outcome = _ ↔ _
      rw [outcome_takeHeader_marker]
      exact read_eq_error_iff hfree hline hleaves e reason

/-- Behind a group with brackets of its own stands an empty group, and then a bracket that closes none. -/
theorem takeHeader_refuses_empty :
    '\n' ∉ "[a[b]][][c]]\r".toList
      ∧ (takeHeader .standard "//[a[b]][][c]]\r\n1".toList).outcome = .error .emptyDelimiter := by
  have hfree : '\n' ∉ "[a[b]][][c]]\r".toList := by decide
  obtain ⟨b, rest, -, -, hline, hleaves, hrefused⟩ := takeHeader_refuses.2 _ hfree
  obtain rfl : "[a[b]][][c]]".toList = b := hline _ (.inl rfl)
  obtain rfl : "[][c]]".toList = rest := by
    refine hleaves _ ⟨["a[b]".toList], rfl, by decide, not_begins_of_empty ⟨_, rfl⟩⟩
  exact ⟨hfree, (hrefused .emptyDelimiter ['1'] .standard).2 (.inr ⟨rfl, rfl, ⟨_, rfl⟩⟩)⟩

end StringCalculator
