import StringCalculator.Proofs.Calculation.Failure

/-!
# `StringCalculator.Proofs.Calculation.Findings` — what delimiters have no part in

Delimiters are gone once an expression is scanned: they have become plus signs, and every later stage
works on what the scan has read. They come up once more where the trace shows the set in its order. So a
calculation without that line of its trace (`Calculation.unlabelled`) is a function of the policy's
switch and bound and of the scan, `Policy.settle`.

Two entries with the same scan therefore have the same findings. An expression and its image under the
delimiters are such a pair, and so is an expression under two orders of one set. Blank entries, which are
answered without being read, fit in: nothing is read from them either way.

## Contents
- **`Calculation.unlabelled`**: a calculation but for the delimiters it shows.
- **`Policy.settle`**, **`unlabelled_calculate`**: the findings as a function of the scan.
- **`calculate_toPlus`**: an expression behind a header, and its image without one.
- **`calculate_delimiter_order`**: neither order nor repetition of delimiters matters.
-/

namespace StringCalculator

/-- The calculation without the delimiters that its trace shows. -/
def Calculation.unlabelled (c : Calculation) : Calculation :=
  { c with trace := { c.trace with delimiters := [] } }

/-! ## The findings of a scan -/

/-- What a policy makes of a scan, whatever the delimiters were. -/
def Policy.settle (p : Policy) (s : Scan) : Except CalculationError Calculation :=
  match s.fault? with
  | some fault => .error (.invalidExpression fault)
  | none => (conclude p .empty (s.tokens p.bound) s.negatives).map Calculation.unlabelled

/-- From the tokens on, delimiters are only shown. -/
theorem unlabelled_conclude (p : Policy) (ds ds' : Delimiters) (ts : List (Token Number))
    (negatives : List Int) :
    (conclude p ds ts negatives).map Calculation.unlabelled
      = (conclude p ds' ts negatives).map Calculation.unlabelled := by
  unfold conclude
  by_cases hrefused : p.refusesNegatives ∧ negatives ≠ []
  · rw [if_pos hrefused, if_pos hrefused]
  · rw [if_neg hrefused, if_neg hrefused]
    by_cases hts : ts = []
    · rw [if_pos hts, if_pos hts]
      rfl
    · rw [if_neg hts, if_neg hts]
      cases ReversePolish.ofTokens? ts with
      | none => rfl
      | some ordered =>
        show ((ReversePolish.evaluate ordered).map _).map _ = ((ReversePolish.evaluate ordered).map _).map _
        cases ReversePolish.evaluate ordered <;> rfl

/-- **The findings of an entry** are those of its scan, blank or not. -/
theorem unlabelled_calculate {p : Policy} {entry t : Text} {ds : Delimiters}
    (hheader : (takeHeader p.delimiters entry).outcome = .ok (ds, t)) :
    (calculate p entry).outcome.map Calculation.unlabelled = p.settle (Scan.ofText ds t) := by
  cases hblank : entry.isBlank with
  | true =>
    rw [takeHeader_of_notMem (Text.notMem_of_isBlank hblank (by decide))] at hheader
    cases hheader
    rw [outcome_calculate_of_isBlank hblank, ofText_eq_of_isBlank _ hblank]
    show _ = (conclude p .empty [] []).map Calculation.unlabelled
    rw [conclude_of_no_tokens fun _ => rfl]
    rfl
  | false =>
    rw [outcome_calculate_of_header hblank hheader, outcome_readTokens, Policy.settle]
    cases (Scan.ofText ds t).fault? with
    | some fault => rfl
    | none => exact unlabelled_conclude p ds .empty _ _

/-- Entries with one scan have the same findings under policies that differ in their delimiters alone. -/
theorem unlabelled_calculate_congr {p : Policy} {entry entry' t t' : Text}
    {defaults ds ds' : Delimiters} (hheader : (takeHeader p.delimiters entry).outcome = .ok (ds, t))
    (hheader' : (takeHeader defaults entry').outcome = .ok (ds', t'))
    (hscan : Scan.ofText ds t = Scan.ofText ds' t') :
    (calculate p entry).outcome.map Calculation.unlabelled
      = (calculate { p with delimiters := defaults } entry').outcome.map Calculation.unlabelled := by
  have hsecond : (takeHeader { p with delimiters := defaults }.delimiters entry').outcome = .ok (ds', t') :=
    hheader'
  rw [unlabelled_calculate hheader, unlabelled_calculate hsecond, hscan]
  rfl

/-! ## One grammar for delimiters and operators -/

/-- The scan of an expression is that of its image, in which no delimiter is left to be read. -/
theorem ofText_toPlus (ds : Delimiters) (t : Text) : Scan.ofText .empty (ds.toPlus t) = Scan.ofText ds t := by
  rw [Scan.ofText, Delimiters.toPlus_empty]
  rfl

/-- **Delimiters are plus signs.** An expression behind a header line, which ends with the line feed up to
    which it is read, has the findings of its image without any delimiters: the same error with the same
    data, or the same value, formula, tokens and order. The image must not look like a header itself. -/
theorem calculate_toPlus {p : Policy} {h e : Text} {ds : Delimiters} (hmarker : ['/', '/'] <+: h)
    (hheader : (takeHeader p.delimiters h).outcome = .ok (ds, [])) (hplain : ¬['/', '/'] <+: ds.toPlus e) :
    (calculate p (h ++ e)).outcome.map Calculation.unlabelled
      = (calculate { p with delimiters := .empty } (ds.toPlus e)).outcome.map Calculation.unlabelled := by
  have himage : (takeHeader .empty (ds.toPlus e)).outcome = .ok (.empty, ds.toPlus e) := by
    rw [takeHeader_of_unmarked hplain]
    rfl
  exact unlabelled_calculate_congr (outcome_takeHeader_append hmarker hheader e) himage
    (ofText_toPlus ds e).symm

/-- The delimiters hide an operator and a parenthesis; the other parenthesis is told in the error. -/
theorem calculate_toPlus_hidden :
    (calculate {} ("//[*][)]\n".toList ++ "4*)3(".toList)).outcome.map Calculation.unlabelled
      = (calculate { delimiters := .empty } "4++3(".toList).outcome.map Calculation.unlabelled := by
  let ds : Delimiters := ⟨[['*'], [')']], by decide, by decide⟩
  have hmarker : ['/', '/'] <+: "//[*][)]\n".toList := ⟨"[*][)]\n".toList, rfl⟩
  have hheader : (takeHeader .standard "//[*][)]\n".toList).outcome = .ok (ds, []) := by decide +kernel
  have himage : ds.toPlus "4*)3(".toList = "4++3(".toList := by decide +kernel
  have hplain : ¬['/', '/'] <+: ds.toPlus "4*)3(".toList := by rw [himage]; decide
  rw [← himage]
  exact calculate_toPlus (p := {}) hmarker hheader hplain

/-! ## Order and repetition of delimiters -/

/-- Sets with the same members read the same in any text. -/
theorem ofText_congr {ds ds' : Delimiters} (h : ∀ d, d ∈ ds ↔ d ∈ ds') (t : Text) :
    Scan.ofText ds t = Scan.ofText ds' t := by
  unfold Scan.ofText
  rw [Delimiters.toPlus_congr h]

/-- Behind the marker the delimiters of the policy do not count, in the log neither. -/
theorem calculate_of_marker {entry : Text} (h : ['/', '/'] <+: entry) (p : Policy) (ds : Delimiters) :
    calculate { p with delimiters := ds } entry = calculate p entry := by
  obtain ⟨t, rfl⟩ := h
  rfl

/-- The delimiters of a policy may be mentioned in any order. -/
theorem unlabelled_calculate_perm {p : Policy} {ds : Delimiters} (h : ds.toList.Perm p.delimiters.toList)
    (entry : Text) :
    (calculate { p with delimiters := ds } entry).outcome.map Calculation.unlabelled
      = (calculate p entry).outcome.map Calculation.unlabelled := by
  by_cases hmarker : ['/', '/'] <+: entry
  · rw [calculate_of_marker hmarker]
  · have hplain (ds : Delimiters) : (takeHeader ds entry).outcome = .ok (ds, entry) := by
      rw [takeHeader_of_unmarked hmarker]
      rfl
    have hmem (d : Text) : d ∈ p.delimiters ↔ d ∈ ds := h.symm.mem_iff
    exact (unlabelled_calculate_congr (hplain p.delimiters) (hplain ds) (ofText_congr hmem entry)).symm

open Header

/-- The groups of a header may be written in any order, and repeated. -/
theorem unlabelled_calculate_groups (p : Policy) {ss ss' : List Text} (hne : ss ≠ [])
    (h : ∀ s ∈ ss, Balanced '[' ']' s ∧ '\n' ∉ s) (hmem : ∀ s, s ∈ ss ↔ s ∈ ss') {eol eol' : Text}
    (heol : eol = ['\n'] ∨ eol = ['\r', '\n']) (heol' : eol' = ['\n'] ∨ eol' = ['\r', '\n']) (e : Text) :
    (calculate p ('/' :: '/' :: ss.flatMap bracketed ++ eol ++ e)).outcome.map Calculation.unlabelled
      = (calculate p ('/' :: '/' :: ss'.flatMap bracketed ++ eol' ++ e)).outcome.map
        Calculation.unlabelled := by
  have hne' : ss' ≠ [] := by
    obtain ⟨s, hs⟩ := List.exists_mem_of_ne_nil ss hne
    exact List.ne_nil_of_mem ((hmem s).1 hs)
  have h' : ∀ s ∈ ss', Balanced '[' ']' s ∧ '\n' ∉ s := fun s hs => h s ((hmem s).2 hs)
  have hheader := outcome_takeHeader_groups hne h p.delimiters heol e
  have hheader' := outcome_takeHeader_groups hne' h' p.delimiters heol' e
  by_cases hempty : [] ∈ ss
  · -- both headers have an empty group
    rw [Delimiters.ofList_eq_error_iff.2 ⟨hempty, rfl⟩] at hheader
    rw [Delimiters.ofList_eq_error_iff.2 ⟨(hmem []).1 hempty, rfl⟩] at hheader'
    rw [outcome_calculate_of_header_error hheader, outcome_calculate_of_header_error hheader']
  · obtain ⟨ds, hds⟩ := Delimiters.exists_ofList hempty
    obtain ⟨ds', hds'⟩ := Delimiters.exists_ofList fun hempty' => hempty ((hmem []).2 hempty')
    rw [hds] at hheader
    rw [hds'] at hheader'
    have hsame (d : Text) : d ∈ ds ↔ d ∈ ds' := by
      rw [Delimiters.mem_ofList hds, Delimiters.mem_ofList hds', hmem]
    exact unlabelled_calculate_congr hheader hheader' (ofText_congr hsame e)

/-- **The order of delimiters does not matter**, and neither does their repetition. Policies that mention
    the same delimiters in another order have the same findings for every entry, and so have two headers
    whose groups hold the same delimiters, in front of one expression. For an entry with a header, accepted
    or not, the delimiters of the policy make no difference at all. -/
theorem calculate_delimiter_order (p : Policy) :
    (∀ (entry : Text) (ds : Delimiters), ds.toList.Perm p.delimiters.toList →
      (calculate { p with delimiters := ds } entry).outcome.map Calculation.unlabelled
        = (calculate p entry).outcome.map Calculation.unlabelled)
    ∧ (∀ (ss ss' : List Text) (eol eol' e : Text), ss ≠ [] →
      (∀ s ∈ ss, Balanced '[' ']' s ∧ '\n' ∉ s) → (∀ s, s ∈ ss ↔ s ∈ ss') →
      eol = ['\n'] ∨ eol = ['\r', '\n'] → eol' = ['\n'] ∨ eol' = ['\r', '\n'] →
      (calculate p ('/' :: '/' :: ss.flatMap bracketed ++ eol ++ e)).outcome.map Calculation.unlabelled
        = (calculate p ('/' :: '/' :: ss'.flatMap bracketed ++ eol' ++ e)).outcome.map
          Calculation.unlabelled)
    ∧ ∀ (entry : Text) (ds : Delimiters), ['/', '/'] <+: entry →
      calculate { p with delimiters := ds } entry = calculate p entry := by
  refine ⟨?_, ?_, ?_⟩
  · intro entry ds h
    exact unlabelled_calculate_perm h entry
  · intro ss ss' eol eol' e hne h hmem heol heol'
    exact unlabelled_calculate_groups p hne h hmem heol heol' e
  · intro entry ds hmarker
    exact calculate_of_marker hmarker p ds

/-- The standard delimiters the other way round; and one delimiter that is the beginning of another, with
    the groups turned around and one of them repeated. -/
theorem calculate_delimiter_order_overlapping :
    (calculate { delimiters := ⟨[['\n'], [',']], by decide, by decide⟩ } "1,2\n-".toList).outcome.map
        Calculation.unlabelled
      = (calculate {} "1,2\n-".toList).outcome.map Calculation.unlabelled
    ∧ (calculate {} "//[*][**]\n2**3*4".toList).outcome.map Calculation.unlabelled
      = (calculate {} "//[**][*][**]\r\n2**3*4".toList).outcome.map Calculation.unlabelled := by
  obtain ⟨hpolicy, hgroups, -⟩ := calculate_delimiter_order {}
  constructor
  · exact hpolicy "1,2\n-".toList ⟨[['\n'], [',']], by decide, by decide⟩ (.swap _ _ _)
  · exact hgroups [['*'], "**".toList] ["**".toList, ['*'], "**".toList] ['\n'] ['\r', '\n'] "2**3*4".toList
      (by decide) (by decide +kernel) (by simp) (.inl rfl) (.inr rfl)

end StringCalculator
