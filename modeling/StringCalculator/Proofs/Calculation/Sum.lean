import StringCalculator.Proofs.Calculation.Failure
import StringCalculator.Proofs.Header
import StringCalculator.Proofs.Scan.Segment

/-!
# `StringCalculator.Proofs.Calculation.Sum` — entries that are sums

Most entries are sums: numbers with delimiters between them. Such an entry is followed through all stages.
Its delimiters become plus signs, its segments a sum grouped to the left, and its outcome is told by the
integers alone: the sum, the formula with all parentheses at the front, or an overflow where some partial
sum leaves the range.

Under the standard delimiters the segments may be blank or negative, and words that are no numerals count
as zero. Under delimiters that a header declares there is more freedom in the delimiters instead. They may
hold operators, parentheses, white space and each other; none of that is ever taken for a part of the sum.

## Contents
- **`conclude_tokens_of_fit`**, **`conclude_tokens_of_not_fit`**: what follows from the tokens of a sum.
- **`calculate_of_joined`**: the outcome of joined segments, whatever declares their delimiters.
- **`calculate_segments`**: sums under the standard delimiters.
- **`calculate_declared`**: sums under the delimiters of a header.
-/

namespace StringCalculator

open Summands

/-! ## The tokens of a sum -/

section Conclude

variable {p : Policy} {ds : Delimiters} {n : Number} {ns : List Number} {negatives : List Int}

theorem conclude_tokens_of_fit (hallowed : p.refusesNegatives → negatives = [])
    (h : Fit ((n :: ns).map Int64.toInt)) :
    ∃ c, conclude p ds (tokens n ns) negatives = .ok c
      ∧ c.value.toInt = ((n :: ns).map Int64.toInt).sum
      ∧ c.formula = text ((n :: ns).map Int64.toInt) := by
  rw [conclude_of_derives (derives_tokens n ns) hallowed, outcome_tree_of_fit n ns h]
  exact ⟨_, rfl, Number.toInt_ofInt (h _ (List.prefix_refl _)), rfl⟩

theorem conclude_tokens_of_not_fit (hallowed : p.refusesNegatives → negatives = [])
    (h : ¬Fit ((n :: ns).map Int64.toInt)) :
    conclude p ds (tokens n ns) negatives = .error .overflow := by
  rw [conclude_of_derives (derives_tokens n ns) hallowed, outcome_tree_of_not_fit n ns h]
  rfl

end Conclude

/-! ## Segments behind a header -/

section Joined

variable {p : Policy} {entry t : Text} {ds : Delimiters} {ss : List Text} {vs : List (Option Int)}

/-- Segments that are not all blank have the outcome of a sum. -/
theorem exists_conclude_of_joined (hheader : (takeHeader p.delimiters entry).outcome = .ok (ds, t))
    (hjoined : Joined [['+']] ss (ds.toPlus t)) (hsegments : List.Forall₂ Segment ss vs)
    (hne : vs.reduceOption ≠ []) :
    ∃ n ns, (n :: ns).map Int64.toInt
        = vs.reduceOption.map (bounded p.bound) ++ (if endsBlank vs then [0] else [])
      ∧ (calculate p entry).outcome
        = conclude p ds (tokens n ns) (vs.reduceOption.filter (· < 0)).eraseDups := by
  obtain ⟨n, ns, hcounted, hread⟩ := outcome_readTokens_segments p.bound hjoined hsegments hne
  have hentry : entry.isBlank = false := by
    rw [Bool.eq_false_iff]
    intro hblank
    cases tokens_eq_nil_of_isBlank hblank hheader hread
  exact ⟨n, ns, hcounted, outcome_calculate_of_stages hentry hheader hread⟩

/-- Blank segments have the value zero and no formula. -/
theorem calculate_of_blank (hheader : (takeHeader p.delimiters entry).outcome = .ok (ds, t))
    (hjoined : Joined [['+']] ss (ds.toPlus t)) (hsegments : List.Forall₂ Segment ss vs)
    (hblank : vs.reduceOption = []) :
    ∃ c, (calculate p entry).outcome = .ok c ∧ c.value = 0 ∧ c.formula = [] := by
  have hread := outcome_readTokens_of_blank p.bound hjoined hsegments hblank
  cases hentry : entry.isBlank with
  | true =>
    rw [outcome_calculate_of_isBlank hentry]
    exact ⟨{}, rfl, rfl, rfl⟩
  | false =>
    rw [outcome_calculate_of_stages hentry hheader hread, conclude_of_no_tokens fun _ => rfl]
    exact ⟨_, rfl, rfl, rfl⟩

/-- **The outcome of segments that are not refused** is the sum of what counts of their values, as long
    as its partial sums are in range. -/
theorem calculate_of_joined (hheader : (takeHeader p.delimiters entry).outcome = .ok (ds, t))
    (hjoined : Joined [['+']] ss (ds.toPlus t)) (hsegments : List.Forall₂ Segment ss vs)
    (hne : vs.reduceOption ≠ []) (hallowed : ¬(p.refusesNegatives ∧ ∃ v ∈ vs.reduceOption, v < 0)) :
    (Fit (vs.reduceOption.map (bounded p.bound)) →
      ∃ c, (calculate p entry).outcome = .ok c
        ∧ c.value.toInt = (vs.reduceOption.map (bounded p.bound)).sum
        ∧ c.formula = text (vs.reduceOption.map (bounded p.bound) ++ if endsBlank vs then [0] else []))
    ∧ (¬Fit (vs.reduceOption.map (bounded p.bound)) →
      (calculate p entry).outcome = .error .overflow) := by
  obtain ⟨n, ns, hcounted, houtcome⟩ := exists_conclude_of_joined hheader hjoined hsegments hne
  have hnone : p.refusesNegatives → (vs.reduceOption.filter (· < 0)).eraseDups = [] := by
    rw [← eraseDups_filter_neg_ne_nil_iff] at hallowed
    exact Decidable.not_and_not_right.1 hallowed
  -- a zero behind the summands changes neither the sum nor the range
  have hfit : Fit ((n :: ns).map Int64.toInt) ↔ Fit (vs.reduceOption.map (bounded p.bound)) := by
    rw [hcounted]
    cases endsBlank vs with
    | false => rw [if_neg (by decide), List.append_nil]
    | true => exact fit_append_zero
  have hsum : ((n :: ns).map Int64.toInt).sum = (vs.reduceOption.map (bounded p.bound)).sum := by
    rw [hcounted]
    cases endsBlank vs <;> simp
  constructor
  · intro h
    obtain ⟨c, hc, hvalue, hformula⟩ := conclude_tokens_of_fit hnone (hfit.2 h)
    exact ⟨c, houtcome.trans hc, hvalue.trans hsum, by rw [hformula, hcounted]⟩
  · intro h
    rw [houtcome]
    exact conclude_tokens_of_not_fit hnone (mt hfit.1 h)

end Joined

/-! ## Standard delimiters -/

/-- Segments under the standard delimiters have no header, and they are joined by plus signs once their
    delimiters are read. -/
theorem stages_of_segments {t : Text} {ss : List Text} {vs : List (Option Int)}
    (hjoined : Joined [[','], ['\n']] ss t) (hsegments : List.Forall₂ Segment ss vs)
    (hfree : ∀ s ∈ ss, ',' ∉ s ∧ '\n' ∉ s) :
    (takeHeader .standard t).outcome = .ok (.standard, t)
      ∧ Joined [['+']] ss (Delimiters.standard.toPlus t) := by
  constructor
  · have hsolidus : ∀ s ∈ ss, '/' ∉ s := by
      have hboth : List.Forall₂ (fun s v => '/' ∉ s ∧ Segment s v) ss vs :=
        hsegments.imp fun s v hs => ⟨hs.solidus_notMem, hs⟩
      exact ((List.forall₂_and_left ss vs).1 hboth).1
    have hnone : '/' ∉ t := by
      intro hmem
      rcases hjoined.mem hmem with ⟨s, hs, hmem⟩ | ⟨d, hd, hmem⟩
      · exact hsolidus s hs hmem
      · revert d
        decide
    rw [takeHeader_of_notMem hnone]
    rfl
  · apply Delimiters.toPlus_joined hjoined
    · intro s hs d hd c hc hmem
      rcases List.mem_cons.1 hd with rfl | hd
      · obtain rfl := List.mem_singleton.1 hc
        exact (hfree s hs).1 hmem
      · obtain rfl := List.mem_singleton.1 hd
        obtain rfl := List.mem_singleton.1 hc
        exact (hfree s hs).2 hmem
    · right
      intro d hd
      revert d
      decide

/-- **Sums under the standard delimiters.** Where negative numbers are refused they are all told, each
    once and in order, with the values they are written with. Else blank segments are passed over: if all
    are blank the value is zero and there is no formula; otherwise what counts of the values is summed
    from the left, and there is an overflow just if some partial sum leaves the range. The formula has a
    zero for its last operand where the last segment is blank. -/
theorem calculate_segments {p : Policy} {t : Text} {ss : List Text} {vs : List (Option Int)}
    (hdelimiters : p.delimiters = .standard) (hjoined : Joined [[','], ['\n']] ss t)
    (hsegments : List.Forall₂ Segment ss vs) (hfree : ∀ s ∈ ss, ',' ∉ s ∧ '\n' ∉ s) :
    let values := vs.reduceOption
    let counted := values.map (bounded p.bound)
    let refused := p.refusesNegatives ∧ ∃ v ∈ values, v < 0
    (refused → (calculate p t).outcome
        = .error (.negativesNotAllowed (values.filter (· < 0)).eraseDups))
    ∧ (¬refused → values = [] →
        ∃ c, (calculate p t).outcome = .ok c ∧ c.value = 0 ∧ c.formula = [])
    ∧ (¬refused → values ≠ [] →
        (Fit counted → ∃ c, (calculate p t).outcome = .ok c ∧ c.value.toInt = counted.sum
          ∧ c.formula = text (counted ++ if endsBlank vs then [0] else []))
        ∧ ((calculate p t).outcome = .error .overflow ↔ ¬Fit counted)) := by
  intro values counted refused
  obtain ⟨hheader, himage⟩ := stages_of_segments hjoined hsegments hfree
  rw [← hdelimiters] at hheader himage
  refine ⟨?_, ?_, ?_⟩
  · rintro ⟨hrefuses, v, hv, hneg⟩
    obtain ⟨n, ns, -, houtcome⟩ :=
      exists_conclude_of_joined hheader himage hsegments (List.ne_nil_of_mem hv)
    have hrefused : p.refusesNegatives ∧ (values.filter (· < 0)).eraseDups ≠ [] :=
      ⟨hrefuses, eraseDups_filter_neg_ne_nil_iff.2 ⟨v, hv, hneg⟩⟩
    rw [houtcome, conclude, if_pos hrefused]
  · intro _ hblank
    exact calculate_of_blank hheader himage hsegments hblank
  · intro hnot hne
    obtain ⟨hok, hoverflow⟩ := calculate_of_joined hheader himage hsegments hne hnot
    refine ⟨hok, ?_, hoverflow⟩
    intro houtcome h
    obtain ⟨c, hc, -⟩ := hok h
    rw [houtcome] at hc
    cases hc

/-- A negative value twice, two values beyond the bound, a word that is no numeral, and blank segments,
    the last one among them. -/
theorem calculate_segments_negative :
    (calculate { bound := 6 } " -5,\n8 ,x,-7,-5,".toList).outcome
      = .error (.negativesNotAllowed [-5, -7])
    ∧ ∃ c, (calculate { refusesNegatives := false, bound := 6 } " -5,\n8 ,x,-7,-5,".toList).outcome
        = .ok c ∧ c.value.toInt = -10 ∧ c.formula = "(((((-5 + 0) + 0) + 0) + -5) + 0)".toList := by
  have hjoined : Joined [[','], ['\n']]
      [[' ', '-', '5'], [], ['8', ' '], ['x'], ['-', '7'], ['-', '5'], []] _ :=
    .cons _ [','] (by decide) <| .cons _ ['\n'] (by decide) <| .cons _ [','] (by decide) <|
    .cons _ [','] (by decide) <| .cons _ [','] (by decide) <| .cons _ [','] (by decide) <| .single _
  have hword {c : Char} (hc : ¬Separator c) : ∀ d ∈ [c], ¬Separator d := List.forall_mem_singleton.2 hc
  have hsegments : List.Forall₂ Segment
      [[' ', '-', '5'], [], ['8', ' '], ['x'], ['-', '7'], ['-', '5'], []]
      [some (-5), none, some 8, some 0, some (-7), some (-5), none] :=
    .cons (.minus (a := [' ']) (w := ['5']) (b := []) rfl (by decide) (hword (by decide)) rfl) <|
    .cons (.blank rfl) <|
    .cons (.word (a := []) (w := ['8']) (b := [' ']) rfl (by decide) (hword (by decide)) rfl) <|
    .cons (.word (a := []) (w := ['x']) (b := []) rfl (by decide) (hword (by decide)) rfl) <|
    .cons (.minus (a := []) (w := ['7']) (b := []) rfl (by decide) (hword (by decide)) rfl) <|
    .cons (.minus (a := []) (w := ['5']) (b := []) rfl (by decide) (hword (by decide)) rfl) <|
    .cons (.blank rfl) .nil
  obtain ⟨hrefused, -⟩ := calculate_segments (p := { bound := 6 }) rfl hjoined hsegments (by decide)
  obtain ⟨-, -, hsum⟩ :=
    calculate_segments (p := { refusesNegatives := false, bound := 6 }) rfl hjoined hsegments (by decide)
  obtain ⟨c, hc, hvalue, hformula⟩ := (hsum (by decide) (by decide)).1 (by decide +kernel)
  exact ⟨hrefused (by decide), c, hc, hvalue.trans (by decide +kernel), hformula.trans (by decide +kernel)⟩

/-! ## Declared delimiters -/

/-- Groups of a header declare their delimiters, and numerals that are joined by these are joined by plus
    signs once the delimiters are read. -/
theorem stages_of_declared {ss ws : List Text} {e : Text} (hne : ss ≠ [])
    (hdelimiters : ∀ s ∈ ss, Header.Groupable s ∧ '\n' ∉ s ∧ ∀ c ∈ s, ¬c.isDigit)
    (hnumerals : ∀ w ∈ ws, w ≠ [] ∧ ∀ c ∈ w, c.isDigit) (hjoined : Joined ss ws e)
    (defaults : Delimiters) :
    ∃ ds, (takeHeader defaults ('/' :: '/' :: ss.flatMap Header.bracketed ++ ['\n'] ++ e)).outcome
        = .ok (ds, e) ∧ Joined [['+']] ws (ds.toPlus e) := by
  have hdeclared : ∀ s ∈ ss, Header.Groupable s ∧ '\n' ∉ s := by
    intro s hs
    obtain ⟨hgroupable, hline, -⟩ := hdelimiters s hs
    exact ⟨hgroupable, hline⟩
  obtain ⟨ds, hds, hheader⟩ := outcome_takeHeader_bracketed hne hdeclared defaults (.inl rfl) e
  have hmem (d : Text) : d ∈ ds ↔ d ∈ ss := by
    rw [Delimiters.mem_def, hds, List.mem_eraseDups]
  refine ⟨ds, hheader, ?_⟩
  apply Delimiters.toPlus_joined
  · apply hjoined.mono
    intro d hd
    exact (hmem d).2 hd
  · intro w hw d hd c hc hmemw
    obtain ⟨-, -, hdigits⟩ := hdelimiters d ((hmem d).1 hd)
    exact hdigits c hc ((hnumerals w hw).2 c hmemw)
  · left
    intro w hw
    exact (hnumerals w hw).1

/-- **Sums under the delimiters of a header.** Numerals that are joined by any delimiters a header has
    declared are summed, as long as no delimiter has a digit. It does not matter what else a delimiter
    holds, nor whether one is the beginning of another. -/
theorem calculate_declared {p : Policy} {ss ws : List Text} {e : Text} (hne : ss ≠ [])
    (hdelimiters : ∀ s ∈ ss, Header.Groupable s ∧ '\n' ∉ s ∧ ∀ c ∈ s, ¬c.isDigit)
    (hnumerals : ∀ w ∈ ws, w ≠ [] ∧ ∀ c ∈ w, c.isDigit) (hjoined : Joined ss ws e) :
    let counted := ws.map fun w => bounded p.bound (Decimal.toNat w)
    let entry := '/' :: '/' :: ss.flatMap Header.bracketed ++ ['\n'] ++ e
    (counted.sum ≤ Int64.maxValue.toInt → ∃ c, (calculate p entry).outcome = .ok c
        ∧ c.value.toInt = counted.sum ∧ c.formula = text counted)
    ∧ (Int64.maxValue.toInt < counted.sum → (calculate p entry).outcome = .error .overflow) := by
  intro counted entry
  obtain ⟨ds, hheader, himage⟩ := stages_of_declared hne hdelimiters hnumerals hjoined p.delimiters
  -- the numerals are segments, none of them blank or negative
  let values : List Int := ws.map fun w => (Decimal.toNat w : Int)
  have hsegments : List.Forall₂ Segment ws (values.map some) := by
    rw [List.map_map, List.forall₂_map_right_iff, List.forall₂_same]
    intro w hw
    exact .numeral (hnumerals w hw).1 (hnumerals w hw).2
  have hnonneg : ∀ v ∈ values, 0 ≤ v := by
    intro v hv
    obtain ⟨w, -, rfl⟩ := List.mem_map.1 hv
    exact Int.natCast_nonneg _
  have hvalues : (values.map some).reduceOption = values := by simp [List.reduceOption]
  have hcounted : values.map (bounded p.bound) = counted := List.map_map
  have hnot : ¬(p.refusesNegatives ∧ ∃ v ∈ (values.map some).reduceOption, v < 0) := by
    rw [hvalues]
    rintro ⟨-, v, hv, hneg⟩
    exact Int.not_le.2 hneg (hnonneg v hv)
  have hsome : (values.map some).reduceOption ≠ [] := by
    rw [hvalues]
    exact mt List.map_eq_nil_iff.1 hjoined.ne_nil
  obtain ⟨hok, hoverflow⟩ := calculate_of_joined hheader himage hsegments hsome hnot
  rw [hvalues, hcounted] at hok hoverflow
  rw [endsBlank_map_some, if_neg (by decide), List.append_nil] at hok
  have hfit : Fit counted ↔ counted.sum ≤ Int64.maxValue.toInt := by
    apply fit_iff_of_nonneg
    intro k hk
    obtain ⟨v, hv, rfl⟩ := List.mem_map.1 (hcounted ▸ hk)
    exact bounded_nonneg (hnonneg v hv)
  constructor
  · intro h
    exact hok (hfit.2 h)
  · intro h
    exact hoverflow (mt hfit.1 (Int.not_le.2 h))

/-- One delimiter is the beginning of another, and they hold operators, a parenthesis, a space and
    brackets. -/
theorem calculate_declared_overlapping :
    ∃ c, (calculate {} "//[*][**(][ [-]]\n12**(3*4 [-]2000".toList).outcome = .ok c
      ∧ c.value.toInt = 19 ∧ c.formula = "(((12 + 3) + 4) + 0)".toList := by
  have hgroupable : ∀ s ∈ [['*'], "**(".toList, " [-]".toList], Header.Groupable s := by decide +kernel
  have hdelimiters : ∀ s ∈ [['*'], "**(".toList, " [-]".toList],
      Header.Groupable s ∧ '\n' ∉ s ∧ ∀ c ∈ s, ¬c.isDigit := by
    intro s hs
    refine ⟨hgroupable s hs, ?_⟩
    revert s
    simp
  have hjoined : Joined [['*'], "**(".toList, " [-]".toList] ["12".toList, ['3'], ['4'], "2000".toList] _ :=
    .cons _ "**(".toList (by decide) <| .cons _ ['*'] (by decide) <| .cons _ " [-]".toList (by decide) <|
    .single _
  obtain ⟨hsum, -⟩ := calculate_declared (p := {}) (by decide) hdelimiters (by simp) hjoined
  obtain ⟨c, hc, hvalue, hformula⟩ := hsum (by decide +kernel)
  exact ⟨c, hc, hvalue.trans (by decide +kernel), hformula.trans (by decide +kernel)⟩

end StringCalculator
