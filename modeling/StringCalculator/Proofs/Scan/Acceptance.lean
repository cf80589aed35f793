import StringCalculator.Calculation
import StringCalculator.Proofs.Lexeme
import StringCalculator.Proofs.Scan.Sentence

/-!
# `StringCalculator.Proofs.Scan.Acceptance` — the scan accepts the sentences

The automaton remembers one thing of what it has read: whether an operand or an operator is due, and
whether a minus waits for its word. `Reached` says which beginnings of a sentence lead to each of its
states; one step keeps it, so a run that ends without a fault has read a sentence. Conversely each part
of a sentence is passed without a fault, from the state in front of it to the state behind it
(`Passes`), and passes compose as the sentence does.

## Contents
- **`Passes`**: a stretch of lexemes read without a fault, whatever follows.
- **`run_of_reads`**: a sentence is read to its end, with its tokens.
- **`Reached`**, **`Reached.step`**, **`Reached.run`**: the beginnings behind each state.
- **`readTokens_accepts_sentences`**: which texts are accepted, and with which tokens.
-/

namespace StringCalculator

open Sentence

/-! ## The number of a word -/

/-- The magnitude of a reading is that of its word. -/
theorem Reading.cast_magnitude (r : Reading) : (r.magnitude : Int) = Sentence.magnitude r.word := by
  rw [magnitude, Sentence.magnitude, Decimal.isNumeral]
  cases r.word.all Char.isDigit <;> rfl

/-- The exact value of a reading is the magnitude of its word, with its sign. -/
theorem Reading.value_eq (r : Reading) :
    r.value = if r.negated then -Sentence.magnitude r.word else Sentence.magnitude r.word := by
  rw [value, r.cast_magnitude]

/-- The number of a reading has its exact value, or zero if the magnitude lies above the bound. -/
theorem Reading.toInt_number_eq (bound : Number) (r : Reading) :
    (r.number bound).toInt = if bound.toInt < r.value.natAbs then 0 else r.value := by
  rw [r.natAbs_value]
  cases h : r.exceeds bound with
  | false =>
    rw [toInt_number h, if_neg]
    simpa [exceeds] using h
  | true =>
    rw [number, h, if_pos rfl, if_pos (by simpa [exceeds] using h)]
    rfl

/-- The number of a reading has the value that the word counts as. -/
theorem Reading.toInt_number_eq_counted (bound : Number) (r : Reading) :
    (r.number bound).toInt = counted bound r.negated r.word := by
  rw [counted, ← r.value_eq]
  exact r.toInt_number_eq bound

/-- Negative values are told just if there are any. -/
theorem eraseDups_filter_neg_ne_nil_iff {vs : List Int} :
    (vs.filter (· < 0)).eraseDups ≠ [] ↔ ∃ v ∈ vs, v < 0 := by
  constructor
  · intro h
    obtain ⟨v, hv⟩ := List.exists_mem_of_ne_nil _ h
    obtain ⟨hmem, hneg⟩ := List.mem_filter.1 (List.mem_eraseDups.1 hv)
    exact ⟨v, hmem, of_decide_eq_true hneg⟩
  · rintro ⟨v, hmem, hneg⟩ hnil
    have hv : v ∈ (vs.filter (· < 0)).eraseDups :=
      List.mem_eraseDups.2 (List.mem_filter.2 ⟨hmem, decide_eq_true hneg⟩)
    rw [hnil] at hv
    cases hv

namespace Scan

/-! ## Passing a stretch of lexemes -/

/-- From the state `s` the lexemes are read without a fault up to the state `s'`, as these tokens and
    whatever follows. -/
def Passes (s : Expecting) (ls : List Lexeme) (rs : List (Token Reading)) (s' : Expecting) : Prop :=
  ∀ rest, run s (ls ++ rest) = { run s' rest with read := rs ++ (run s' rest).read }

variable {s s' s'' : Expecting} {ls ms : List Lexeme} {rs qs : List (Token Reading)}

theorem Passes.nil : Passes s [] [] s := by
  intro rest
  rfl

theorem Passes.append (h : Passes s ls rs s') (h' : Passes s' ms qs s'') :
    Passes s (ls ++ ms) (rs ++ qs) s'' := by
  intro rest
  rw [List.append_assoc, h, h', List.append_assoc]

/-- One lexeme that makes no token. -/
theorem Passes.silent {l : Lexeme} (hstep : s.step l = .ok (none, s')) (h : Passes s' ls rs s'') :
    Passes s (l :: ls) rs s'' := by
  intro rest
  rw [List.cons_append, run, hstep]
  exact h rest

/-- One lexeme that makes a token. -/
theorem Passes.token {l : Lexeme} {t : Token Reading} (hstep : s.step l = .ok (some t, s'))
    (h : Passes s' ls rs s'') : Passes s (l :: ls) (t :: rs) s'' := by
  intro rest
  rw [List.cons_append, run, hstep]
  show (run s' (ls ++ rest)).cons? (some t) = _
  rw [h rest]
  rfl

/-- An opening keeps its parentheses and leaves an operand due. -/
theorem passes_opening {a : List Lexeme} (h : IsOpening a) :
    Passes (.operand false) a (kept a) (.operand false) := by
  induction a with
  | nil => exact .nil
  | cons l a ih =>
    have htail : Passes (.operand false) a (kept a) (.operand false) := by
      apply ih
      intro m hm
      exact h m (List.mem_cons_of_mem l hm)
    rcases h l List.mem_cons_self with rfl | rfl
    · exact .silent rfl htail
    · exact .token rfl htail

/-- Behind a minus only plus signs pass, and the minus waits on. -/
theorem passes_signs (k : Nat) :
    Passes (.operand true) (List.replicate k (.operator .add)) [] (.operand true) := by
  induction k with
  | zero => exact .nil
  | succ k ih => exact .silent rfl ih

theorem passes_closing (k : Nat) :
    Passes .operator (List.replicate k .rparen) (List.replicate k .rparen) .operator := by
  induction k with
  | zero => exact .nil
  | succ k ih => exact .token rfl ih

/-- A lead keeps its parentheses, and its minus waits. -/
theorem passes_lead {a : List Lexeme} (h : a ∈ lead) :
    Passes (.operand false) a (kept a) (.operand (negates a)) := by
  obtain ⟨f, b, rfl, hf, hb⟩ := mem_lead_iff.1 h
  have hnone : negates f = false := by
    rw [negates, decide_eq_false_iff_not]
    intro hmem
    rcases hf _ hmem with h | h <;> cases h
  rw [kept_append, negates_append, hnone, Bool.false_or]
  -- only the part behind the opening can have a minus, and no part of that is kept
  rcases hb with rfl | ⟨k, rfl⟩
  · exact (passes_opening hf).append .nil
  · have hkept : kept (.operator .sub :: List.replicate k (.operator .add)) = ([] : List (Token Reading)) := by
      rw [kept, List.filterMap_eq_nil_iff]
      intro l hl
      rcases List.mem_cons.1 hl with rfl | hl
      · rfl
      · rw [List.eq_of_mem_replicate hl]
    have hminus : negates (.operator .sub :: List.replicate k (.operator .add)) = true := by
      simp [negates]
    rw [hkept, hminus]
    exact (passes_opening hf).append (.silent rfl (passes_signs k))

/-- A clause leaves an operator due. -/
theorem passes_clause {bound : Number} {l : List Lexeme} {t : List (Token Number)}
    (h : Clause bound l t) :
    ∃ rs, rs.map (Token.map (Reading.number bound)) = t ∧ Passes (.operand false) l rs .operator := by
  obtain ⟨ha, hn⟩ := h
  rename_i a w n k
  refine ⟨kept a ++ .operand ⟨w, negates a⟩ :: List.replicate k .rparen, ?_, ?_⟩
  · have hnumber : Reading.number bound ⟨w, negates a⟩ = n := by
      rw [← Int64.toInt_inj, Reading.toInt_number_eq_counted, hn]
    simp [map_kept, Token.map, hnumber]
  · exact (passes_lead ha).append (.token rfl (passes_closing k))

/-- Clauses with operators behind them leave an operand due. -/
theorem passes_clauses {bound : Number} {ls : List Lexeme} {ts : List (Token Number)}
    (h : Clauses bound ls ts) :
    ∃ rs, rs.map (Token.map (Reading.number bound)) = ts
      ∧ Passes (.operand false) ls rs (.operand false) := by
  induction h with
  | nil => exact ⟨[], rfl, .nil⟩
  | snoc o _ ht ih =>
    obtain ⟨rs, rfl, hls⟩ := ih
    obtain ⟨qs, rfl, hl⟩ := passes_clause ht
    have ho : Passes .operator [.operator o] [.operator o] (.operand false) := .token rfl .nil
    exact ⟨rs ++ (qs ++ [.operator o]), by simp [Token.map], hls.append (hl.append ho)⟩

/-- **A sentence is read to its end**, as the tokens it stands for. -/
theorem run_of_reads {bound : Number} {ls : List Lexeme} {ts : List (Token Number)}
    (h : Reads bound ls ts) :
    ∃ rs, rs.map (Token.map (Reading.number bound)) = ts ∧ run (.operand false) ls = { read := rs } := by
  cases h with
  | lead hts ha =>
    obtain ⟨rs, rfl, hls⟩ := passes_clauses hts
    refine ⟨_, ?_, by simpa [run] using hls.append (passes_lead ha) []⟩
    rw [List.map_append, map_kept]
  | clause hts ht =>
    obtain ⟨rs, rfl, hls⟩ := passes_clauses hts
    obtain ⟨qs, rfl, hl⟩ := passes_clause ht
    exact ⟨_, List.map_append, by simpa [run] using hls.append hl []⟩

/-! ## The beginnings behind each state -/

/-- What a step does where an operand is due. -/
theorem step_operand_eq_ok {m : Bool} {l : Lexeme} {token? : Option (Token Reading)} {s' : Expecting}
    (h : (Expecting.operand m).step l = .ok (token?, s')) :
    (∃ w, l = .operand w ∧ token? = some (.operand ⟨w, m⟩) ∧ s' = .operator)
    ∨ (l = .operator .add ∧ token? = none ∧ s' = .operand m)
    ∨ (l = .operator .sub ∧ m = false ∧ token? = none ∧ s' = .operand true)
    ∨ (l = .lparen ∧ m = false ∧ token? = some .lparen ∧ s' = .operand false) := by
  unfold Expecting.step at h
  split at h <;> cases h <;> simp_all

/-- What a step does where an operator is due. -/
theorem step_operator_eq_ok {l : Lexeme} {token? : Option (Token Reading)} {s' : Expecting}
    (h : Expecting.operator.step l = .ok (token?, s')) :
    (∃ o, l = .operator o ∧ token? = some (.operator o) ∧ s' = .operand false)
    ∨ (l = .rparen ∧ token? = some .rparen ∧ s' = .operator) := by
  unfold Expecting.step at h
  split at h <;> cases h <;> simp_all

/-- **The invariant of a run.** Where an operand is due, whole clauses and a lead have been read; where
    an operator is due, whole clauses and one more clause. -/
inductive Reached (bound : Number) : Expecting → List Lexeme → List (Token Number) → Prop
  | operand {ls ts a} : Clauses bound ls ts → a ∈ lead →
      Reached bound (.operand (negates a)) (ls ++ a) (ts ++ kept a)
  | operator {ls ts l t} : Clauses bound ls ts → Clause bound l t →
      Reached bound .operator (ls ++ l) (ts ++ t)

/-- Behind whole clauses an operand is due. -/
theorem Reached.clauses {bound : Number} {ls : List Lexeme} {ts : List (Token Number)}
    (h : Clauses bound ls ts) : Reached bound (.operand false) ls ts := by
  have hempty : Reached bound (.operand (negates [])) (ls ++ []) (ts ++ kept []) :=
    .operand h nil_mem_lead
  rwa [List.append_nil, show kept [] = ([] : List (Token Number)) from rfl, List.append_nil] at hempty

/-- Wherever a run ends, what has been read is a sentence. -/
theorem Reached.reads {bound : Number} {s : Expecting} {p : List Lexeme} {q : List (Token Number)}
    (h : Reached bound s p q) : Reads bound p q := by
  cases h with
  | operand hts ha => exact .lead hts ha
  | operator hts ht => exact .clause hts ht

/-- **One step keeps the invariant.** -/
theorem Reached.step {bound : Number} {s s' : Expecting} {p : List Lexeme} {q : List (Token Number)}
    {l : Lexeme} {token? : Option (Token Reading)} (h : Reached bound s p q)
    (hstep : s.step l = .ok (token?, s')) :
    Reached bound s' (p ++ [l]) (q ++ token?.toList.map (Token.map (Reading.number bound))) := by
  cases h with
  | @operand ls ts a hts ha =>
    rw [List.append_assoc, List.append_assoc]
    -- a sign or a parenthesis makes the lead longer, a word ends it
    have hlonger : ∀ m, a ++ [m] ∈ lead →
        Reached bound (.operand (negates (a ++ [m]))) (ls ++ (a ++ [m])) (ts ++ (kept a ++ kept [m])) := by
      intro m hm
      rw [← kept_append]
      exact .operand hts hm
    rcases step_operand_eq_ok hstep with
      ⟨w, rfl, rfl, rfl⟩ | ⟨rfl, rfl, rfl⟩ | ⟨rfl, hneg, rfl, rfl⟩ | ⟨rfl, hneg, rfl, rfl⟩
    · have hcounted := Reading.toInt_number_eq_counted bound ⟨w, negates a⟩
      exact .operator hts (.mk (k := 0) ha hcounted)
    · have hnegates : negates (a ++ [.operator .add]) = negates a := by simp [negates]
      rw [← hnegates]
      exact hlonger _ (append_mem_lead ha (.inl rfl))
    · have hnegates : negates (a ++ [.operator .sub]) = true := by simp [negates]
      rw [← hnegates]
      exact hlonger _ (append_mem_lead ha (.inr ⟨hneg, .inr rfl⟩))
    · have hnegates : negates (a ++ [.lparen]) = false := by simpa [negates] using hneg
      rw [← hnegates]
      exact hlonger _ (append_mem_lead ha (.inr ⟨hneg, .inl rfl⟩))
  | @operator ls ts m t hts ht =>
    rw [List.append_assoc, List.append_assoc]
    -- an operator makes the clause one of the whole ones, a parenthesis makes it longer
    rcases step_operator_eq_ok hstep with ⟨o, rfl, rfl, rfl⟩ | ⟨rfl, rfl, rfl⟩
    · exact .clauses (.snoc o hts ht)
    · exact .operator hts ht.append_rparen

/-- A run without a fault keeps the invariant to its end. -/
theorem Reached.run {bound : Number} {s : Expecting} {p : List Lexeme} {q : List (Token Number)}
    {ls : List Lexeme} (h : Reached bound s p q) (hrun : (Scan.run s ls).fault? = none) :
    ∃ s', Reached bound s' (p ++ ls) (q ++ (Scan.run s ls).read.map (Token.map (Reading.number bound))) := by
  induction ls generalizing s p q with
  | nil =>
    refine ⟨s, ?_⟩
    show Reached bound s (p ++ []) (q ++ [])
    rwa [List.append_nil, List.append_nil]
  | cons l ls ih =>
    cases hstep : s.step l with
    | error fault =>
      rw [Scan.run, hstep] at hrun
      cases hrun
    | ok next =>
      -- one step to the state behind the lexeme, from there the rest of the run
      obtain ⟨token?, s'⟩ := next
      have hcons : Scan.run s (l :: ls) = (Scan.run s' ls).cons? token? := by rw [Scan.run, hstep]
      rw [hcons] at hrun ⊢
      obtain ⟨s'', hend⟩ := ih (h.step hstep) hrun
      refine ⟨s'', ?_⟩
      rw [List.append_assoc, List.append_assoc] at hend
      rwa [cons?, List.map_append]

/-- **What is read to its end is a sentence**, and it stands for the tokens read. -/
theorem reads_of_run {bound : Number} {ls : List Lexeme}
    (h : (run (.operand false) ls).fault? = none) :
    Reads bound ls ((run (.operand false) ls).read.map (Token.map (Reading.number bound))) := by
  obtain ⟨s, hend⟩ := (Reached.clauses .nil).run h
  exact hend.reads

/-! ## The texts that are accepted -/

theorem zeroEnded_iff {ts ts' : List (Token Number)} : ZeroEnded ts ts' ↔ ts' = withFinalZero ts := by
  have hlast : (ts.getLast?.any Token.isOperator) = true ↔ ∃ o, ts.getLast? = some (.operator o) := by
    cases ts.getLast? with
    | none => simp
    | some t => cases t <;> simp [Token.isOperator]
  unfold ZeroEnded withFinalZero
  by_cases h : ∃ o, ts.getLast? = some (.operator o)
  · simp [h, hlast.2 h]
  · simp [h, mt hlast.1 h]

end Scan

open Scan

/-- What the scan of the lexemes settles: the fault, or the tokens with the negative values. -/
theorem outcome_readTokens (ds : Delimiters) (bound : Number) (t : Text) :
    (readTokens ds bound t).outcome = match (Scan.ofText ds t).fault? with
      | some fault => .error (.invalidExpression fault)
      | none => .ok ((Scan.ofText ds t).tokens bound, (Scan.ofText ds t).negatives) := rfl

/-- A text is read if its scan has no fault, and then as the scan tells. -/
theorem readTokens_eq_ok_iff {ds : Delimiters} {bound : Number} {t : Text} {ts : List (Token Number)}
    {negatives : List Int} :
    (readTokens ds bound t).outcome = .ok (ts, negatives)
      ↔ (Scan.ofText ds t).fault? = none ∧ ts = (Scan.ofText ds t).tokens bound
        ∧ negatives = (Scan.ofText ds t).negatives := by
  rw [outcome_readTokens]
  cases (Scan.ofText ds t).fault? with
  | some fault => simp
  | none => simp [eq_comm]

/-- **The tokens of a text** are those of its lexemes as a sentence, with a zero behind a last operator. -/
theorem outcome_readTokens_eq_ok_iff {ds : Delimiters} {bound : Number} {t : Text} {ls : List Lexeme}
    (h : Lexes (ds.toPlus t) ls) (ts : List (Token Number)) :
    (∃ negatives, (readTokens ds bound t).outcome = .ok (ts, negatives))
      ↔ ∃ rs, Reads bound ls rs ∧ ZeroEnded rs ts := by
  have hscan : Scan.ofText ds t = run (.operand false) ls := by rw [Scan.ofText, h.eq_lexemes]
  constructor
  · rintro ⟨negatives, hok⟩
    obtain ⟨hfault, rfl, -⟩ := readTokens_eq_ok_iff.1 hok
    rw [hscan] at hfault ⊢
    exact ⟨_, reads_of_run hfault, zeroEnded_iff.2 rfl⟩
  · rintro ⟨_, hreads, hend⟩
    obtain ⟨rs, rfl, hrun⟩ := run_of_reads hreads
    refine ⟨_, readTokens_eq_ok_iff.2 ⟨?_, ?_, rfl⟩⟩
    · rw [hscan, hrun]
    · rw [zeroEnded_iff.1 hend, hscan, hrun]
      rfl

/-- A text whose lexemes are no sentence has a fault. -/
theorem outcome_readTokens_of_notMem {ds : Delimiters} {bound : Number} {t : Text} {ls : List Lexeme}
    (h : Lexes (ds.toPlus t) ls) (hnot : ls ∉ sentences) :
    ∃ fault, (readTokens ds bound t).outcome = .error (.invalidExpression fault) := by
  have hscan : Scan.ofText ds t = run (.operand false) ls := by rw [Scan.ofText, h.eq_lexemes]
  rw [outcome_readTokens, hscan]
  cases hfault : (run (.operand false) ls).fault? with
  | some fault => exact ⟨fault, rfl⟩
  | none => exact absurd ((mem_sentences_iff bound).2 ⟨_, reads_of_run hfault⟩) hnot

/-- **The scan accepts the sentences**, and nothing else. A text is read if its lexemes form a sentence,
    and then as the tokens that the sentence stands for; any other text is an invalid expression. -/
theorem readTokens_accepts_sentences {ds : Delimiters} {bound : Number} {t : Text} {ls : List Lexeme}
    (h : Lexes (ds.toPlus t) ls) :
    ((∃ result, (readTokens ds bound t).outcome = .ok result) ↔ ls ∈ sentences)
    ∧ (ls ∉ sentences → ∃ fault, (readTokens ds bound t).outcome = .error (.invalidExpression fault))
    ∧ ∀ ts, (∃ negatives, (readTokens ds bound t).outcome = .ok (ts, negatives))
        ↔ ∃ rs, Reads bound ls rs ∧ ZeroEnded rs ts := by
  refine ⟨⟨?_, ?_⟩, outcome_readTokens_of_notMem h, outcome_readTokens_eq_ok_iff h⟩
  · rintro ⟨⟨ts, negatives⟩, hok⟩
    obtain ⟨rs, hreads, -⟩ := (outcome_readTokens_eq_ok_iff h ts).1 ⟨negatives, hok⟩
    exact (mem_sentences_iff bound).2 ⟨rs, hreads⟩
  · intro hmem
    obtain ⟨rs, hreads⟩ := (mem_sentences_iff bound).1 hmem
    obtain ⟨negatives, hok⟩ := (outcome_readTokens_eq_ok_iff h _).2 ⟨rs, hreads, zeroEnded_iff.2 rfl⟩
    exact ⟨_, hok⟩

/-- A lead with all its parts, a word that is no numeral, and a delimiter at the end. -/
theorem readTokens_accepts_sentences_lead :
    ([.operator .add, .lparen, .operator .sub, .operator .add, .operand ['3'], .rparen, .operator .mul,
        .operand ['x'], .operator .add] : List Lexeme) ∈ sentences
    ∧ ∃ rs, Reads 1000 [.operator .add, .lparen, .operator .sub, .operator .add, .operand ['3'], .rparen,
          .operator .mul, .operand ['x'], .operator .add] rs
        ∧ ZeroEnded rs [.lparen, .operand (-3), .rparen, .operator .mul, .operand 0, .operator .add,
          .operand 0] := by
  have hlexes : Lexes (Delimiters.standard.toPlus "+(-+3)*x,".toList)
      [.operator .add, .lparen, .operator .sub, .operator .add, .operand ['3'], .rparen, .operator .mul,
        .operand ['x'], .operator .add] := lexes_iff.2 (by decide +kernel)
  have hok : (readTokens .standard 1000 "+(-+3)*x,".toList).outcome
      = .ok ([.lparen, .operand (-3), .rparen, .operator .mul, .operand 0, .operator .add, .operand 0],
          [-3]) := by decide +kernel
  obtain ⟨haccepts, -, htokens⟩ := readTokens_accepts_sentences hlexes
  exact ⟨haccepts.1 ⟨_, hok⟩, (htokens _).1 ⟨_, hok⟩⟩

end StringCalculator
