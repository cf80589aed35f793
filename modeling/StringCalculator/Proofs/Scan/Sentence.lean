import Mathlib.Computability.Language
import StringCalculator.Lexeme
import StringCalculator.Number

/-!
# `StringCalculator.Proofs.Scan.Sentence` — the lexemes of an expression

Which lists of lexemes are expressions, and which tokens they stand for, told without the automaton
that scans them.

In front of each word stands a *lead*: plus signs and opening parentheses in any order, then perhaps a
minus with more plus signs behind it. A *clause* is a lead, a word and closing parentheses. A
*sentence* is made of clauses with an operator behind each, and ends with one more clause or with a
lead. Only the parentheses of a lead are kept; its minus belongs to the word.

Parentheses need not match here: how many are open is no matter of a regular language.

## Contents
- **`lead`, `sentences`**: the two regular languages.
- **`counted`**: the number that a word counts as.
- **`Clause`, `Clauses`, `Reads`**: the lexemes of clauses and sentences with the tokens they stand for;
  **`ZeroEnded`**: the zero behind a last operator.
- **`mem_lead_iff`**: a lead in plain words.
- **`mem_sentences_iff`**: every sentence stands for a list of tokens, and only sentences do.
-/

namespace StringCalculator

open scoped Computability

/-! ## The regular languages -/

namespace Sentence

/-- One plus sign. -/
def plus : Language Lexeme := {[.operator .add]}

/-- One minus sign. -/
def minus : Language Lexeme := {[.operator .sub]}

/-- One opening parenthesis. -/
def lparen : Language Lexeme := {[.lparen]}

/-- One closing parenthesis. -/
def rparen : Language Lexeme := {[.rparen]}

/-- One word. -/
def word : Language Lexeme := {ls | ∃ w, ls = [.operand w]}

/-- One operator. -/
def operator : Language Lexeme := {ls | ∃ o, ls = [.operator o]}

/-- What may stand in front of a word. -/
def lead : Language Lexeme := (plus∗ * lparen)∗ * plus∗ * (1 + minus * plus∗)

/-- The lexemes of an expression. -/
def sentences : Language Lexeme :=
  (lead * word * rparen∗ * operator)∗ * lead * (1 + word * rparen∗)

/-! ## The tokens of a sentence -/

/-- The magnitude of a word: its decimal value, or zero if it is no numeral. -/
def magnitude (w : Text) : Int := if w.all Char.isDigit then Decimal.toNat w else 0

/-- The value that a word counts as: negated behind a minus, and zero beyond the bound. -/
def counted (bound : Number) (negated : Bool) (w : Text) : Int :=
  let value := if negated then -magnitude w else magnitude w
  if bound.toInt < value.natAbs then 0 else value

/-- The lead has a minus. -/
def negates (a : List Lexeme) : Bool := .operator .sub ∈ a

/-- The lead without its signs. -/
def kept {α : Type} (a : List Lexeme) : List (Token α) :=
  a.filterMap fun
    | .lparen => some .lparen
    | _ => none

/-- A lead, a word and closing parentheses, with their tokens. -/
inductive Clause (bound : Number) : List Lexeme → List (Token Number) → Prop
  | mk {a : List Lexeme} {w : Text} {n : Number} {k : Nat} :
      a ∈ lead → n.toInt = counted bound (negates a) w →
      Clause bound (a ++ .operand w :: List.replicate k .rparen)
        (kept a ++ .operand n :: List.replicate k .rparen)

/-- Clauses, each with an operator behind it. -/
inductive Clauses (bound : Number) : List Lexeme → List (Token Number) → Prop
  | nil : Clauses bound [] []
  | snoc {ls ts l t} (o : Operator) : Clauses bound ls ts → Clause bound l t →
      Clauses bound (ls ++ (l ++ [.operator o])) (ts ++ (t ++ [.operator o]))

/-- **The tokens of a sentence.** It ends with a lead or with a clause. -/
inductive Reads (bound : Number) : List Lexeme → List (Token Number) → Prop
  | lead {ls ts a} : Clauses bound ls ts → a ∈ lead → Reads bound (ls ++ a) (ts ++ kept a)
  | clause {ls ts l t} : Clauses bound ls ts → Clause bound l t → Reads bound (ls ++ l) (ts ++ t)

/-- A last operator is followed by a zero, and nothing else is. -/
def ZeroEnded (ts ts' : List (Token Number)) : Prop :=
  ((∃ o, ts.getLast? = some (.operator o)) ∧ ts' = ts ++ [.operand 0])
  ∨ ((¬∃ o, ts.getLast? = some (.operator o)) ∧ ts' = ts)

/-! ## Words of a star -/

section Star

variable {α : Type} {l : Language α} {x y : List α}

theorem append_mem_kstar (hx : x ∈ l∗) (hy : y ∈ l) : x ++ y ∈ l∗ := by
  have hle : l∗ * l ≤ l∗ := kstar_mul_le_kstar
  exact hle (Language.append_mem_mul hx hy)

/-- A property of the words of a star, word by word from the left. -/
theorem kstar_induction {P : List α → Prop} (hnil : P []) (hsnoc : ∀ x y, P x → y ∈ l → P (x ++ y))
    (h : x ∈ l∗) : P x := by
  obtain ⟨words, rfl, hwords⟩ := Language.mem_kstar.1 h
  clear h
  induction words using List.reverseRecOn with
  | nil => exact hnil
  | append_singleton words y ih =>
    rw [List.flatten_append, List.flatten_singleton]
    have hinit : P words.flatten := by
      apply ih
      intro z hz
      exact hwords z (List.mem_append_left _ hz)
    exact hsnoc _ y hinit (hwords y (by simp))

/-- The words over one letter. -/
theorem mem_kstar_letter_iff {a : α} : x ∈ ({[a]} : Language α)∗ ↔ ∃ k, x = List.replicate k a := by
  constructor
  · intro h
    refine kstar_induction (P := fun x => ∃ k, x = List.replicate k a) ⟨0, rfl⟩ ?_ h
    rintro x y ⟨k, rfl⟩ rfl
    exact ⟨k + 1, List.replicate_succ'.symm⟩
  · rintro ⟨k, rfl⟩
    induction k with
    | zero => exact Language.nil_mem_kstar _
    | succ k ih =>
      rw [List.replicate_succ']
      exact append_mem_kstar ih rfl

end Star

/-! ## Leads in plain words -/

/-- Plus signs and opening parentheses in any order. -/
def IsOpening (a : List Lexeme) : Prop := ∀ l ∈ a, l = .operator .add ∨ l = .lparen

theorem mem_opening_iff {a : List Lexeme} : a ∈ (plus∗ * lparen)∗ * plus∗ ↔ IsOpening a := by
  have hplus : ∀ x ∈ plus∗, IsOpening x := by
    intro x hx l hl
    obtain ⟨k, rfl⟩ := mem_kstar_letter_iff.1 hx
    exact .inl (List.eq_of_mem_replicate hl)
  constructor
  · intro h
    obtain ⟨x, hx, y, hy, rfl⟩ := Language.mem_mul.1 h
    have hopen : IsOpening x := by
      refine kstar_induction (P := IsOpening) (by simp [IsOpening]) ?_ hx
      rintro x y ih hy l hl
      obtain ⟨z, hz, _, rfl, rfl⟩ := Language.mem_mul.1 hy
      rcases List.mem_append.1 hl with hl | hl
      · exact ih l hl
      · rcases List.mem_append.1 hl with hl | hl
        · exact hplus z hz l hl
        · exact .inr (List.mem_singleton.1 hl)
    intro l hl
    exact (List.mem_append.1 hl).elim (hopen l) (hplus y hy l)
  · intro h
    induction a using List.reverseRecOn with
    | nil => exact ⟨[], Language.nil_mem_kstar _, [], Language.nil_mem_kstar _, rfl⟩
    | append_singleton a l ih =>
      have hinit : IsOpening a := by
        intro m hm
        exact h m (List.mem_append_left _ hm)
      obtain ⟨x, hx, y, hy, rfl⟩ := Language.mem_mul.1 (ih hinit)
      rcases h l (by simp) with rfl | rfl
      · rw [List.append_assoc]
        exact Language.append_mem_mul hx (append_mem_kstar hy rfl)
      · -- the parenthesis takes the plus signs in front of it into the star
        refine ⟨_, append_mem_kstar hx (Language.append_mem_mul hy rfl), [], Language.nil_mem_kstar _, ?_⟩
        simp

/-- **A lead** is an opening, and perhaps a minus with plus signs behind it. -/
theorem mem_lead_iff {a : List Lexeme} :
    a ∈ lead ↔ ∃ f b, a = f ++ b ∧ IsOpening f
      ∧ (b = [] ∨ ∃ k, b = .operator .sub :: List.replicate k (.operator .add)) := by
  constructor
  · intro h
    obtain ⟨f, hf, b, hb, rfl⟩ := Language.mem_mul.1 h
    refine ⟨f, b, rfl, mem_opening_iff.1 hf, ?_⟩
    rcases (Language.mem_add _ _ _).1 hb with hb | hb
    · exact .inl ((Language.mem_one b).1 hb)
    · obtain ⟨_, rfl, y, hy, rfl⟩ := Language.mem_mul.1 hb
      obtain ⟨k, rfl⟩ := mem_kstar_letter_iff.1 hy
      exact .inr ⟨k, rfl⟩
  · rintro ⟨f, b, rfl, hf, hb⟩
    refine Language.append_mem_mul (mem_opening_iff.2 hf) ((Language.mem_add _ _ _).2 ?_)
    rcases hb with rfl | ⟨k, rfl⟩
    · exact .inl Language.nil_mem_one
    · have hminus : [Token.operator .sub] ∈ minus := rfl
      exact .inr (Language.append_mem_mul hminus (mem_kstar_letter_iff.2 ⟨k, rfl⟩))

/-- A lead takes one more plus sign, and without a minus also a minus or an opening parenthesis. -/
theorem append_mem_lead {a : List Lexeme} {l : Lexeme} (ha : a ∈ lead)
    (hl : l = .operator .add ∨ (negates a = false ∧ (l = .lparen ∨ l = .operator .sub))) :
    a ++ [l] ∈ lead := by
  obtain ⟨f, b, rfl, hf, hb⟩ := mem_lead_iff.1 ha
  rw [mem_lead_iff]
  rcases hb with rfl | ⟨k, rfl⟩
  · -- no minus yet: the opening grows, or the minus is the one that comes
    rw [List.append_nil] at hl ⊢
    have hopen : l = .operator .add ∨ l = .lparen → IsOpening (f ++ [l]) := by
      intro h m hm
      rcases List.mem_append.1 hm with hm | hm
      · exact hf m hm
      · exact List.mem_singleton.1 hm ▸ h
    rcases hl with rfl | ⟨-, rfl | rfl⟩
    · exact ⟨_, [], (List.append_nil _).symm, hopen (.inl rfl), .inl rfl⟩
    · exact ⟨_, [], (List.append_nil _).symm, hopen (.inr rfl), .inl rfl⟩
    · exact ⟨f, [.operator .sub], rfl, hf, .inr ⟨0, rfl⟩⟩
  · -- behind the minus only a plus sign may come
    rcases hl with rfl | ⟨hnone, -⟩
    · refine ⟨f, _, List.append_assoc _ _ _, hf, .inr ⟨k + 1, ?_⟩⟩
      rw [List.cons_append, List.replicate_succ']
    · simp [negates] at hnone

theorem nil_mem_lead : [] ∈ lead := mem_lead_iff.2 ⟨[], [], rfl, by simp [IsOpening], .inl rfl⟩

/-! ## Sentences stand for tokens -/

theorem kept_append {α : Type} (a b : List Lexeme) : (kept (a ++ b) : List (Token α)) = kept a ++ kept b :=
  List.filterMap_append

theorem map_kept {α β : Type} (f : α → β) (a : List Lexeme) :
    (kept a).map (Token.map f) = kept a := by
  rw [kept, kept, List.map_filterMap]
  congr 1
  funext l
  cases l <;> rfl

theorem negates_append (a b : List Lexeme) : negates (a ++ b) = (negates a || negates b) := by
  simp [negates]

/-- A clause takes one more closing parenthesis. -/
theorem Clause.append_rparen {bound : Number} {l : List Lexeme} {t : List (Token Number)}
    (h : Clause bound l t) : Clause bound (l ++ [.rparen]) (t ++ [.rparen]) := by
  obtain ⟨ha, hn⟩ := h
  rename_i a w n k
  have hmore := Clause.mk (k := k + 1) ha hn
  rw [List.replicate_succ', List.replicate_succ'] at hmore
  simpa using hmore

/-- Every word counts as some number. -/
theorem exists_toInt_eq_counted (bound : Number) (negated : Bool) (w : Text) :
    ∃ n : Number, n.toInt = counted bound negated w := by
  have hbound := bound.toInt_lt
  refine ⟨Int64.ofInt (counted bound negated w), Int64.toInt_ofInt_of_le ?_ ?_⟩
  all_goals
    simp only [counted]
    split <;> omega

theorem mem_clause_iff (bound : Number) {l : List Lexeme} :
    l ∈ lead * word * rparen∗ ↔ ∃ t, Clause bound l t := by
  constructor
  · intro h
    obtain ⟨_, haw, c, hc, rfl⟩ := Language.mem_mul.1 h
    obtain ⟨a, ha, _, ⟨w, rfl⟩, rfl⟩ := Language.mem_mul.1 haw
    obtain ⟨k, rfl⟩ := mem_kstar_letter_iff.1 hc
    obtain ⟨n, hn⟩ := exists_toInt_eq_counted bound (negates a) w
    exact ⟨_, by simpa using Clause.mk (k := k) ha hn⟩
  · rintro ⟨_, ⟨ha, -⟩⟩
    rename_i a w n k
    have hword : a ++ [.operand w] ∈ lead * word := Language.append_mem_mul ha ⟨w, rfl⟩
    have hclosing : List.replicate k .rparen ∈ rparen∗ := mem_kstar_letter_iff.2 ⟨k, rfl⟩
    rw [List.append_cons]
    exact Language.append_mem_mul hword hclosing

theorem mem_clauses_iff (bound : Number) {ls : List Lexeme} :
    ls ∈ (lead * word * rparen∗ * operator)∗ ↔ ∃ ts, Clauses bound ls ts := by
  constructor
  · intro h
    refine kstar_induction (P := fun ls => ∃ ts, Clauses bound ls ts) ⟨[], .nil⟩ ?_ h
    rintro x y ⟨ts, hts⟩ hy
    obtain ⟨l, hl, _, ⟨o, rfl⟩, rfl⟩ := Language.mem_mul.1 hy
    obtain ⟨t, ht⟩ := (mem_clause_iff bound).1 hl
    exact ⟨_, .snoc o hts ht⟩
  · rintro ⟨ts, h⟩
    induction h with
    | nil => exact Language.nil_mem_kstar _
    | snoc o _ ht ih =>
      exact append_mem_kstar ih
        (Language.append_mem_mul ((mem_clause_iff bound).2 ⟨_, ht⟩) ⟨o, rfl⟩)

/-- **Sentences are what can be read.** The lexemes form a sentence if they stand for tokens. -/
theorem mem_sentences_iff (bound : Number) {ls : List Lexeme} :
    ls ∈ sentences ↔ ∃ ts, Reads bound ls ts := by
  constructor
  · intro h
    obtain ⟨_, hfront, b, hb, rfl⟩ := Language.mem_mul.1 h
    obtain ⟨ls, hls, a, ha, rfl⟩ := Language.mem_mul.1 hfront
    obtain ⟨ts, hts⟩ := (mem_clauses_iff bound).1 hls
    -- the sentence ends with its last lead, or that lead begins a clause
    rcases (Language.mem_add _ _ _).1 hb with hb | hb
    · rw [(Language.mem_one b).1 hb, List.append_nil]
      exact ⟨_, .lead hts ha⟩
    · obtain ⟨w, hw, c, hc, rfl⟩ := Language.mem_mul.1 hb
      have hclause := Language.append_mem_mul (Language.append_mem_mul ha hw) hc
      obtain ⟨t, ht⟩ := (mem_clause_iff bound).1 hclause
      exact ⟨_, by simpa using Reads.clause hts ht⟩
  · rintro ⟨_, h⟩
    cases h with
    | lead hts ha =>
      have hfront := Language.append_mem_mul ((mem_clauses_iff bound).2 ⟨_, hts⟩) ha
      rw [← List.append_nil (_ ++ _)]
      exact Language.append_mem_mul hfront ((Language.mem_add _ _ _).2 (.inl Language.nil_mem_one))
    | clause hts ht =>
      obtain ⟨_, haw, c, hc, rfl⟩ := Language.mem_mul.1 ((mem_clause_iff bound).2 ⟨_, ht⟩)
      obtain ⟨a, ha, w, hw, rfl⟩ := Language.mem_mul.1 haw
      have hfront := Language.append_mem_mul ((mem_clauses_iff bound).2 ⟨_, hts⟩) ha
      have hback := (Language.mem_add 1 (word * rparen∗) _).2 (.inr (Language.append_mem_mul hw hc))
      rw [List.append_assoc, ← List.append_assoc]
      exact Language.append_mem_mul hfront hback

end Sentence

end StringCalculator
