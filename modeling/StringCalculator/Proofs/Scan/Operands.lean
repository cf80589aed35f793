import StringCalculator.Proofs.Scan.Acceptance

/-!
# `StringCalculator.Proofs.Scan.Operands` — the words read in front of a fault

A scan that meets a fault keeps what it has read. The lexemes in front of the fault are a sentence, and
no sentence begins with them and the lexeme at fault, so they are the longest sentence that the lexemes
begin with. Its words, one for each clause and each with the minus of its lead, are what the scan has read
as operands, in their order; a word that stands where an operator is due is the lexeme at fault, and not
among them.

## Contents
- **`Sentence.Operands`**: the words of a sentence; **`exists_operands`**: every sentence has them.
- **`Sentence.IsLongest`**: the longest sentence that lexemes begin with.
- **`passes_run`**: a run passes all lexemes, or those in front of its fault.
- **`Operands.readings_run`**: the words of a sentence are read.
- **`exists_isLongest`**: what any run has read.
-/

namespace StringCalculator

open Sentence

namespace Sentence

/-! ## The words of a sentence -/

/-- The words of a sentence in their order, each with the minus of the lead in front of it. -/
inductive Operands : List Lexeme → List Reading → Prop
  | lead {a : List Lexeme} : a ∈ lead → Operands a []
  | clause {a : List Lexeme} {w : Text} {k : Nat} : a ∈ lead →
      Operands (a ++ .operand w :: List.replicate k .rparen) [⟨w, negates a⟩]
  | cons {a : List Lexeme} {w : Text} {k : Nat} {o : Operator} {ls : List Lexeme} {rs : List Reading} :
      a ∈ lead → Operands ls rs →
      Operands (a ++ .operand w :: (List.replicate k .rparen ++ .operator o :: ls)) (⟨w, negates a⟩ :: rs)

/-- The longest sentence that the lexemes begin with. -/
structure IsLongest (ls front : List Lexeme) : Prop where
  begins : front <+: ls
  mem : front ∈ sentences
  longest : ∀ p ∈ sentences, p <+: ls → p <+: front

variable {ls ms front front' : List Lexeme} {rs : List Reading}

theorem IsLongest.unique (h : IsLongest ls front) (h' : IsLongest ls front') : front = front' := by
  have hle : front <+: front' := h'.longest front h.mem h.begins
  exact hle.eq_of_length_le (h.longest front' h'.mem h'.begins).length_le

/-- Clauses in front of a sentence have words of their own. -/
theorem Operands.clauses_append {bound : Number} {ts : List (Token Number)} (h : Clauses bound ls ts)
    (h' : Operands ms rs) : ∃ qs, Operands (ls ++ ms) qs := by
  induction h generalizing ms rs with
  | nil => exact ⟨rs, h'⟩
  | snoc o _ ht ih =>
    obtain ⟨ha, -⟩ := ht
    rename_i k
    obtain ⟨qs, hqs⟩ := ih (.cons (k := k) (o := o) ha h')
    exact ⟨qs, by simpa using hqs⟩

/-- Every sentence has its words. -/
theorem exists_operands (h : ls ∈ sentences) : ∃ rs, Operands ls rs := by
  obtain ⟨ts, hreads⟩ := (mem_sentences_iff 0).1 h
  cases hreads with
  | lead hts ha => exact Operands.clauses_append hts (.lead ha)
  | clause hts ht =>
    obtain ⟨ha, -⟩ := ht
    exact Operands.clauses_append hts (.clause ha)

end Sentence

namespace Scan

variable {s s' s'' : Expecting} {ls front : List Lexeme} {rs : List Reading}

/-! ## Where a run ends -/

/-- The sentences are what is read without a fault. -/
theorem mem_sentences_iff_fault? : ls ∈ sentences ↔ (run (.operand false) ls).fault? = none := by
  constructor
  · intro h
    obtain ⟨ts, hreads⟩ := (mem_sentences_iff 0).1 h
    obtain ⟨_, -, hrun⟩ := run_of_reads hreads
    rw [hrun]
  · intro h
    exact (mem_sentences_iff 0).2 ⟨_, reads_of_run h⟩

/-- One lexeme, with the token that it makes, if any. -/
theorem Passes.step {l : Lexeme} {token? : Option (Token Reading)} {ts : List (Token Reading)}
    (hstep : s.step l = .ok (token?, s')) (h : Passes s' ls ts s'') :
    Passes s (l :: ls) (token?.toList ++ ts) s'' := by
  cases token? with
  | none => exact .silent hstep h
  | some t => exact .token hstep h

/-- **A run passes all lexemes**, or those in front of the first at which it has no step. -/
theorem passes_run (s : Expecting) (ls : List Lexeme) :
    (∃ s', Passes s ls (run s ls).read s' ∧ (run s ls).fault? = none)
    ∨ ∃ front l rest s' fault, ls = front ++ l :: rest ∧ Passes s front (run s ls).read s'
      ∧ s'.step l = .error fault ∧ (run s ls).fault? = some fault := by
  induction ls generalizing s with
  | nil => exact .inl ⟨s, .nil, rfl⟩
  | cons l ls ih =>
    cases hstep : s.step l with
    | error fault =>
      have hrun : run s (l :: ls) = { fault? := some fault } := by rw [run, hstep]
      rw [hrun]
      exact .inr ⟨[], l, ls, s, fault, rfl, .nil, hstep, rfl⟩
    | ok next =>
      obtain ⟨token?, s'⟩ := next
      have hrun : run s (l :: ls) = (run s' ls).cons? token? := by rw [run, hstep]
      rw [hrun]
      rcases ih s' with ⟨s'', hpasses, hnone⟩ | ⟨front, m, rest, s'', fault, rfl, hpasses, herror, hfault⟩
      · exact .inl ⟨s'', .step hstep hpasses, hnone⟩
      · exact .inr ⟨l :: front, m, rest, s'', fault, rfl, .step hstep hpasses, herror, hfault⟩

/-- The lexemes that were passed are what was read. -/
theorem Passes.run_eq {ts : List (Token Reading)} (h : Passes s ls ts s') : run s ls = { read := ts } := by
  simpa [run] using h []

/-- Only a word is a word at fault. -/
theorem eq_operand_of_step_eq_error {l : Lexeme} {w : Text}
    (h : s.step l = .error (.operandForOperator w)) : l = .operand w := by
  unfold Expecting.step at h
  split at h <;> cases h
  rfl

/-! ## What is read -/

/-- A lead has no words. -/
theorem filterMap_operand?_kept (a : List Lexeme) :
    (kept a : List (Token Reading)).filterMap Token.operand? = [] := by
  rw [List.filterMap_eq_nil_iff]
  intro t ht
  obtain ⟨l, -, hl⟩ := List.mem_filterMap.1 ht
  cases l <;> cases hl
  rfl

/-- Nor have closing parentheses. -/
theorem filterMap_operand?_replicate (k : Nat) :
    (List.replicate k (.rparen : Token Reading)).filterMap Token.operand? = [] := by
  rw [List.filterMap_eq_nil_iff]
  intro t ht
  rw [List.eq_of_mem_replicate ht]
  rfl

/-- The words of a sentence are passed as operands. -/
theorem passes_of_operands (h : Operands ls rs) :
    ∃ ts s', Passes (.operand false) ls ts s' ∧ ts.filterMap Token.operand? = rs := by
  induction h with
  | lead ha => exact ⟨_, _, passes_lead ha, filterMap_operand?_kept _⟩
  | clause ha =>
    refine ⟨_, _, (passes_lead ha).append (.token rfl (passes_closing _)), ?_⟩
    rw [List.filterMap_append, filterMap_operand?_kept]
    show _ :: (List.replicate _ _).filterMap Token.operand? = _
    rw [filterMap_operand?_replicate]
  | cons ha _ ih =>
    obtain ⟨ts, s', hpasses, rfl⟩ := ih
    refine ⟨_, s', (passes_lead ha).append (.token rfl ((passes_closing _).append (.token rfl hpasses))), ?_⟩
    rw [List.filterMap_append, filterMap_operand?_kept]
    show _ :: (List.replicate _ _ ++ _).filterMap Token.operand? = _
    rw [List.filterMap_append, filterMap_operand?_replicate]
    rfl

/-- **The words of a sentence are read**, in their order and nothing else. -/
theorem readings_run_of_operands (h : Operands ls rs) : (run (.operand false) ls).readings = rs := by
  obtain ⟨ts, s', hpasses, rfl⟩ := passes_of_operands h
  rw [hpasses.run_eq, readings]

/-- **What a run has read** are the words of the longest sentence that the lexemes begin with. A fault is
    at the lexeme behind that sentence. -/
theorem exists_isLongest (ls : List Lexeme) :
    ∃ front, IsLongest ls front ∧ Operands front (run (.operand false) ls).readings
      ∧ ∀ fault, (run (.operand false) ls).fault? = some fault →
        ∃ l s, front ++ [l] <+: ls ∧ Expecting.step s l = .error fault := by
  -- a stretch without a fault is a sentence, and has its words read
  have hread : ∀ front s', Passes (.operand false) front (run (.operand false) ls).read s' →
      front ∈ sentences ∧ Operands front (run (.operand false) ls).readings := by
    intro front s' hpasses
    have hmem : front ∈ sentences := by rw [mem_sentences_iff_fault?, hpasses.run_eq]
    obtain ⟨rs, hrs⟩ := exists_operands hmem
    have hreadings := readings_run_of_operands hrs
    rw [hpasses.run_eq] at hreadings
    exact ⟨hmem, hreadings ▸ hrs⟩
  rcases passes_run (.operand false) ls with
    ⟨s', hpasses, hnone⟩ | ⟨front, l, rest, s', fault, hls, hpasses, herror, hfault⟩
  · obtain ⟨hmem, hoperands⟩ := hread ls s' hpasses
    refine ⟨ls, ⟨List.prefix_rfl, hmem, fun _ _ hp => hp⟩, hoperands, ?_⟩
    intro fault hfault
    rw [hnone] at hfault
    cases hfault
  · obtain ⟨hmem, hoperands⟩ := hread front s' hpasses
    refine ⟨front, ⟨⟨l :: rest, hls.symm⟩, hmem, ?_⟩, hoperands, ?_⟩
    · -- a longer beginning has the lexeme at fault in it
      rintro p hp ⟨q, hq⟩
      rw [mem_sentences_iff_fault?] at hp
      rcases List.append_eq_append_iff.1 (hq.trans hls) with ⟨m, hm, -⟩ | ⟨m, rfl, hm⟩
      · exact ⟨m, hm.symm⟩
      · cases m with
        | nil => exact ⟨[], by simp⟩
        | cons x m =>
          obtain ⟨rfl, -⟩ := List.cons.inj hm
          rw [hpasses, run, herror] at hp
          cases hp
    · intro fault' hfault'
      rw [hfault] at hfault'
      cases hfault'
      exact ⟨l, s', ⟨rest, by simp [hls]⟩, herror⟩

end Scan

end StringCalculator
