import Mathlib.Data.List.Forall2
import Mathlib.Data.List.ReduceOption
import StringCalculator.Proofs.Delimiters.Joined
import StringCalculator.Proofs.ReversePolish.Sum
import StringCalculator.Proofs.Scan.Acceptance

/-!
# `StringCalculator.Proofs.Scan.Segment` — segments between plus signs

A segment is blank, or it holds one word, perhaps behind a minus, with white space around. Segments that
are joined by plus signs are read as a sum of their words. A blank segment drops out with the plus behind
it, since a plus is dropped where an operand is due; only behind the last operand there may be a plus too
many, and the zero that is put there takes it up.

The run over the segments is one induction over the joined text. Each segment is passed with the plus
behind it, whatever follows.

## Contents
- **`Segment`**: the segments, with the exact value of their word.
- **`Summands.bounded`**: what counts of a value; **`endsBlank`**: the last segment is blank.
- **`Summands.trailed`**: the tokens of a sum, perhaps with one plus more.
- **`Segment.readAsSum_append`**, **`exists_readAsSum`**: one more segment, and all of them.
- **`outcome_readTokens_segments`**: the tokens and the negative values of joined segments.
-/

namespace StringCalculator

/-- A segment and the exact value of its word, if it holds one. A word that is no numeral has the
    value zero. -/
inductive Segment : Text → Option Int → Prop
  | blank {s : Text} : s.isBlank → Segment s none
  | word {a w b : Text} : a.isBlank → w ≠ [] → (∀ c ∈ w, ¬Separator c) → b.isBlank →
      Segment (a ++ w ++ b) (some (Sentence.magnitude w))
  | minus {a w b : Text} : a.isBlank → w ≠ [] → (∀ c ∈ w, ¬Separator c) → b.isBlank →
      Segment (a ++ '-' :: w ++ b) (some (-Sentence.magnitude w))

/-- The last one is blank. -/
def endsBlank {α : Type} (vs : List (Option α)) : Bool := vs.getLast?.any Option.isNone

/-- What counts of a value: nothing, if its magnitude lies above the bound. -/
def Summands.bounded (bound : Number) (v : Int) : Int := if bound.toInt < v.natAbs then 0 else v

theorem Summands.bounded_nonneg {bound : Number} {v : Int} (h : 0 ≤ v) : 0 ≤ bounded bound v := by
  unfold bounded
  split
  · exact Int.le_refl 0
  · exact h

/-! ## Blank ends -/

section EndsBlank

variable {α β : Type} {v : Option α} {vs : List (Option α)}

theorem endsBlank_cons (h : vs ≠ []) : endsBlank (v :: vs) = endsBlank vs := by
  unfold endsBlank
  rw [List.getLast?_cons_of_ne_nil h]

theorem endsBlank_of_reduceOption_eq_nil (h : vs ≠ []) (hnil : vs.reduceOption = []) :
    endsBlank vs = true := by
  obtain ⟨k, rfl⟩ := (List.reduceOption_eq_nil_iff vs).1 hnil
  cases k with
  | zero => exact absurd rfl h
  | succ k =>
    unfold endsBlank
    rw [List.replicate_succ', List.getLast?_concat]
    rfl

theorem endsBlank_map (f : α → β) : endsBlank (vs.map (Option.map f)) = endsBlank vs := by
  unfold endsBlank
  rw [List.getLast?_map]
  cases vs.getLast? with
  | none => rfl
  | some v => cases v <;> rfl

theorem endsBlank_map_some (as : List α) : endsBlank (as.map some) = false := by
  unfold endsBlank
  rw [List.getLast?_map]
  cases as.getLast? <;> rfl

end EndsBlank

/-! ## Sums with a plus behind them -/

namespace Summands

variable {α : Type}

/-- The tokens of the operands as a sum, and behind them a plus if the last place is blank. -/
def trailed (vs : List (Option α)) : List (Token α) :=
  match vs.reduceOption with
  | [] => []
  | a :: as => tokens a as ++ if endsBlank vs then [.operator .add] else []

theorem trailed_of_reduceOption {vs : List (Option α)} {a : α} {as : List α}
    (h : vs.reduceOption = a :: as) :
    trailed vs = tokens a as ++ if endsBlank vs then [.operator .add] else [] := by
  unfold trailed
  rw [h]

theorem trailed_cons_none {vs : List (Option α)} (h : vs ≠ []) : trailed (none :: vs) = trailed vs := by
  unfold trailed
  rw [List.reduceOption_cons_of_none, endsBlank_cons h]

theorem trailed_cons_some {vs : List (Option α)} (a : α) (h : vs ≠ []) :
    trailed (some a :: vs) = .operand a :: .operator .add :: trailed vs := by
  unfold trailed
  rw [List.reduceOption_cons_of_some, endsBlank_cons h]
  cases hoperands : vs.reduceOption with
  | nil =>
    rw [endsBlank_of_reduceOption_eq_nil h hoperands]
    rfl
  | cons b bs => rfl

/-- The plus behind the sum is no operand. -/
theorem filterMap_operand?_trailed (vs : List (Option α)) :
    (trailed vs).filterMap Token.operand? = vs.reduceOption := by
  unfold trailed
  cases vs.reduceOption with
  | nil => rfl
  | cons a as =>
    show (tokens a as ++ _).filterMap Token.operand? = a :: as
    rw [List.filterMap_append, filterMap_operand?_tokens]
    cases endsBlank vs <;> exact List.append_nil (a :: as)

/-- A sum ends with an operand, so no zero is put behind it. -/
theorem withFinalZero_tokens (n : Number) (ns : List Number) :
    Scan.withFinalZero (tokens n ns) = tokens n ns := by
  have hlast : (tokens n ns).getLast?.any Token.isOperator = false := by
    induction ns using List.reverseRecOn with
    | nil => rfl
    | append_singleton ns m _ =>
      rw [tokens_concat]
      simp [Token.isOperator]
  unfold Scan.withFinalZero
  rw [hlast, if_neg (by decide)]

/-- With a plus behind it a sum gets a zero for its last summand. -/
theorem withFinalZero_tokens_add (n : Number) (ns : List Number) :
    Scan.withFinalZero (tokens n ns ++ [.operator .add]) = tokens n (ns ++ [0]) := by
  unfold Scan.withFinalZero
  rw [List.getLast?_concat, tokens_concat]
  show tokens n ns ++ [.operator .add] ++ [.operand 0] = _
  rw [List.append_assoc]
  rfl

end Summands

/-! ## One segment -/

/-- Behind a word white space ends it, or what follows the white space. -/
theorem Lexes.word_append {w b t : Text} {ls : List Lexeme} (hne : w ≠ []) (hw : ∀ c ∈ w, ¬Separator c)
    (hb : b.isBlank) (ht : ∀ c, t.head? = some c → Separator c) (h : Lexes t ls) :
    Lexes (w ++ (b ++ t)) (.operand w :: ls) := by
  refine .word hne hw ?_ (h.append_of_isBlank hb)
  intro c hc
  cases b with
  | nil => exact ht c hc
  | cons d b =>
    obtain rfl : d = c := Option.some.inj hc
    exact .inl (List.all_eq_true.1 hb d List.mem_cons_self)

/-- A numeral is a segment by itself. -/
theorem Segment.numeral {w : Text} (hne : w ≠ []) (hw : ∀ c ∈ w, c.isDigit) :
    Segment w (some (Decimal.toNat w)) := by
  have hmagnitude : Sentence.magnitude w = Decimal.toNat w := by
    unfold Sentence.magnitude
    rw [if_pos (List.all_eq_true.2 hw)]
  have hword : ∀ c ∈ w, ¬Separator c := by
    intro c hc
    exact not_separator_of_isDigit (hw c hc)
  have hsegment : Segment ([] ++ w ++ []) (some (Sentence.magnitude w)) := .word rfl hne hword rfl
  rwa [List.nil_append, List.append_nil, hmagnitude] at hsegment

/-- No segment has a solidus. -/
theorem Segment.solidus_notMem {s : Text} {v : Option Int} (h : Segment s v) : '/' ∉ s := by
  have hblank {b : Text} (hb : b.isBlank) : '/' ∉ b := Text.notMem_of_isBlank hb (by decide)
  have hword {w : Text} (hw : ∀ c ∈ w, ¬Separator c) : '/' ∉ w := by
    intro hmem
    exact hw '/' hmem (.inr (by decide))
  cases h with
  | blank hs => exact hblank hs
  | word ha _ hw hb => simp [hblank ha, hword hw, hblank hb]
  | minus ha _ hw hb => simp [hblank ha, hword hw, hblank hb]

open Scan

/-- **What a segment does to a scan.** The lexemes of a blank one are none; those of any other are
    read as one operand that has the value of the segment. -/
theorem Segment.exists_lexemes {s : Text} {v : Option Int} (h : Segment s v) :
    ∃ ls, (∀ t ms, (∀ c, t.head? = some c → Separator c) → Lexes t ms → Lexes (s ++ t) (ls ++ ms))
      ∧ match v with
        | none => ls = []
        | some v => ∃ r : Reading, r.value = v ∧ Passes (.operand false) ls [.operand r] .operator := by
  cases h with
  | blank hs =>
    refine ⟨[], ?_, rfl⟩
    intro t ms _ ht
    exact ht.append_of_isBlank hs
  | @word a w b ha hne hw hb =>
    refine ⟨[.operand w], ?_, ⟨w, false⟩, Reading.value_eq ⟨w, false⟩, .token rfl .nil⟩
    intro t ms ht h
    rw [List.append_assoc, List.append_assoc]
    exact (h.word_append hne hw hb ht).append_of_isBlank ha
  | @minus a w b ha hne hw hb =>
    refine ⟨[.operator .sub, .operand w], ?_, ⟨w, true⟩, Reading.value_eq ⟨w, true⟩,
      .silent rfl (.token rfl .nil)⟩
    intro t ms ht h
    rw [List.append_assoc, List.append_assoc]
    exact (Lexes.operator .sub (h.word_append hne hw hb ht)).append_of_isBlank ha

/-! ## Segments joined by plus signs -/

/-- The text is read as a sum of the operands, with a plus behind it if the last place is blank. -/
def ReadAsSum (t : Text) (rs : List (Option Reading)) : Prop :=
  ∃ ls, Lexes t ls ∧ run (.operand false) ls = { read := Summands.trailed rs }

/-- One segment alone. -/
theorem Segment.readAsSum {s : Text} {v : Option Int} (h : Segment s v) :
    ∃ r, r.map Reading.value = v ∧ ReadAsSum s [r] := by
  obtain ⟨ls, hlexes, hrun⟩ := h.exists_lexemes
  have hls : Lexes s ls := by
    have hend := hlexes [] [] (by simp) .nil
    rwa [List.append_nil, List.append_nil] at hend
  cases v with
  | none =>
    subst hrun
    exact ⟨none, rfl, [], hls, rfl⟩
  | some v =>
    obtain ⟨r, rfl, hpasses⟩ := hrun
    refine ⟨some r, rfl, ls, hls, ?_⟩
    have hend := hpasses []
    rwa [List.append_nil] at hend

/-- One more segment in front, with a plus behind it. -/
theorem Segment.readAsSum_append {s t : Text} {v : Option Int} {rs : List (Option Reading)}
    (h : Segment s v) (hne : rs ≠ []) (ht : ReadAsSum t rs) :
    ∃ r, r.map Reading.value = v ∧ ReadAsSum (s ++ ['+'] ++ t) (r :: rs) := by
  obtain ⟨ls, hlexes, hrun⟩ := h.exists_lexemes
  obtain ⟨ms, hms, hrest⟩ := ht
  have hplus : Lexes ('+' :: t) (.operator .add :: ms) := .operator .add hms
  have hls : Lexes (s ++ ['+'] ++ t) (ls ++ .operator .add :: ms) := by
    rw [List.append_assoc]
    apply hlexes _ _ _ hplus
    rintro c ⟨⟩
    exact .inr List.mem_cons_self
  cases v with
  | none =>
    -- the plus stands where an operand is due
    subst hrun
    refine ⟨none, rfl, _, hls, ?_⟩
    rw [Summands.trailed_cons_none hne, ← hrest]
    exact (Passes.silent rfl .nil) ms
  | some v =>
    obtain ⟨r, rfl, hpasses⟩ := hrun
    refine ⟨some r, rfl, _, hls, ?_⟩
    have hadd : Passes .operator [.operator .add] [.operator .add] (.operand false) := .token rfl .nil
    have hboth := hpasses.append hadd ms
    rw [List.append_assoc, hrest] at hboth
    rw [Summands.trailed_cons_some r hne]
    exact hboth

variable {ss : List Text} {vs : List (Option Int)} {t : Text}

/-- **Joined segments are read as a sum**, with a plus behind it if the last segment is blank. -/
theorem exists_readAsSum (hjoined : Joined [['+']] ss t) (hsegments : List.Forall₂ Segment ss vs) :
    ∃ rs : List (Option Reading), rs.map (Option.map Reading.value) = vs ∧ ReadAsSum t rs := by
  induction hjoined generalizing vs with
  | single s =>
    obtain ⟨v, _, hs, hnil, rfl⟩ := List.forall₂_cons_left_iff.1 hsegments
    obtain rfl := List.forall₂_nil_left_iff.1 hnil
    obtain ⟨r, rfl, hread⟩ := hs.readAsSum
    exact ⟨[r], rfl, hread⟩
  | @cons ss t s d hd htail ih =>
    obtain rfl := List.mem_singleton.1 hd
    obtain ⟨v, vs, hs, hss, rfl⟩ := List.forall₂_cons_left_iff.1 hsegments
    obtain ⟨rs, rfl, hrest⟩ := ih hss
    have hne : rs ≠ [] := by
      rintro rfl
      exact htail.ne_nil (List.forall₂_nil_right_iff.1 hss)
    obtain ⟨r, rfl, hread⟩ := hs.readAsSum_append hne hrest
    exact ⟨r :: rs, rfl, hread⟩

/-! ## Tokens and negative values -/

namespace Scan

theorem negatives_trailed (rs : List (Option Reading)) :
    negatives { read := Summands.trailed rs }
      = ((rs.reduceOption.map Reading.value).filter (· < 0)).eraseDups := by
  unfold negatives readings
  rw [Summands.filterMap_operand?_trailed]

/-- The tokens are those of what counts of the values, and the zero for a plus at the end is one more
    summand. -/
theorem exists_tokens_trailed (bound : Number) {rs : List (Option Reading)} (hne : rs.reduceOption ≠ []) :
    ∃ n ns, (n :: ns).map Int64.toInt = (rs.reduceOption.map Reading.value).map (Summands.bounded bound)
        ++ (if endsBlank rs then [0] else [])
      ∧ tokens bound { read := Summands.trailed rs } = Summands.tokens n ns := by
  obtain ⟨r, qs, hreadings⟩ := List.exists_cons_of_ne_nil hne
  have hcounted (q : Reading) : (q.number bound).toInt = Summands.bounded bound q.value :=
    q.toInt_number_eq bound
  unfold tokens
  rw [Summands.trailed_of_reduceOption hreadings, List.map_append, Summands.map_tokens, hreadings]
  cases endsBlank rs with
  | false =>
    refine ⟨r.number bound, qs.map (Reading.number bound), by simp [hcounted], ?_⟩
    rw [if_neg (by decide), List.map_nil, List.append_nil]
    exact Summands.withFinalZero_tokens _ _
  | true =>
    refine ⟨r.number bound, qs.map (Reading.number bound) ++ [0], by simp [hcounted], ?_⟩
    exact Summands.withFinalZero_tokens_add _ _

end Scan

variable {ds : Delimiters} (bound : Number)

/-- Blank segments are read as nothing. -/
theorem outcome_readTokens_of_blank (hjoined : Joined [['+']] ss (ds.toPlus t))
    (hsegments : List.Forall₂ Segment ss vs) (hblank : vs.reduceOption = []) :
    (readTokens ds bound t).outcome = .ok ([], []) := by
  obtain ⟨rs, rfl, ls, hlexes, hrun⟩ := exists_readAsSum hjoined hsegments
  have hnone : rs.reduceOption = [] := by
    rw [List.reduceOption_map] at hblank
    exact List.map_eq_nil_iff.1 hblank
  have hscan : Scan.ofText ds t = {} := by
    unfold Scan.ofText
    rw [← hlexes.eq_lexemes, hrun]
    unfold Summands.trailed
    rw [hnone]
  apply readTokens_eq_ok_iff.2
  rw [hscan]
  exact ⟨rfl, rfl, rfl⟩

/-- **The tokens of joined segments** are a sum of what counts of their values, with a zero for its last
    summand if the last segment is blank. All negative values are told, whatever counts of them. -/
theorem outcome_readTokens_segments (hjoined : Joined [['+']] ss (ds.toPlus t))
    (hsegments : List.Forall₂ Segment ss vs) (hne : vs.reduceOption ≠ []) :
    ∃ n ns, (n :: ns).map Int64.toInt
        = vs.reduceOption.map (Summands.bounded bound) ++ (if endsBlank vs then [0] else [])
      ∧ (readTokens ds bound t).outcome
        = .ok (Summands.tokens n ns, (vs.reduceOption.filter (· < 0)).eraseDups) := by
  obtain ⟨rs, rfl, ls, hlexes, hrun⟩ := exists_readAsSum hjoined hsegments
  rw [List.reduceOption_map] at hne ⊢
  rw [endsBlank_map]
  have hscan : Scan.ofText ds t = { read := Summands.trailed rs } := by
    unfold Scan.ofText
    rw [← hlexes.eq_lexemes, hrun]
  obtain ⟨n, ns, hcounted, htokens⟩ := exists_tokens_trailed bound (mt List.map_eq_nil_iff.2 hne)
  refine ⟨n, ns, hcounted, readTokens_eq_ok_iff.2 ?_⟩
  rw [hscan, htokens, negatives_trailed]
  exact ⟨rfl, rfl, rfl⟩

end StringCalculator
