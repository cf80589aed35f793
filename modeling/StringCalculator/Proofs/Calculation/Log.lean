import StringCalculator.Proofs.Calculation.Stages
import StringCalculator.Proofs.ReversePolish.Adjacency
import StringCalculator.Proofs.Scan.Operands

/-!
# `StringCalculator.Proofs.Calculation.Log` — the log tells the course of a calculation

Each stage of a calculation leaves its message in the log once it has succeeded, and the scan leaves the
words it does not take as they are. So the log is one list with five parts, each of which may be empty: the
delimiters of a header, the words, the tokens, their order, and the result. What a calculation gets to is
its *course*; which course it is can be said without the log, and the log is what the course has to tell.

A scan that fails has told of the words in front of its fault, and nothing of the lexeme at fault, be it a
word or not.

## Contents
- **`Course`**, with **`Course.events`**: what there is to tell.
- **`Course.Of`**: the course of a calculation; **`Course.Of.unique`**: it has but one.
- **`course`**: the course as a function; **`course_of`**: it is the one that was said.
- **`events_calculate`**: the log is that of the course.
- **`calculate_log`**: both in one.
-/

namespace StringCalculator

open Sentence

/-! ## Courses -/

/-- What a calculation gets to. -/
@[ext]
structure Course where
  /-- The delimiters of the header. -/
  header? : Option Delimiters := none
  /-- The words read as operands. -/
  words : List Reading := []
  /-- The tokens. -/
  tokens? : Option (List (Token Number)) := none
  /-- The tokens in reverse Polish order. -/
  ordered? : Option (List (Token Number)) := none
  /-- The value with its formula. -/
  result? : Option ReversePolish.Result := none

/-- What there is to tell of a word: that it is no numeral, then that its magnitude lies above the bound.
    A word may be both, since it then counts as zero and a bound may be negative. -/
def Course.wordEvents (bound : Number) (r : Reading) : List Event :=
  (if r.word.all Char.isDigit then [] else [.invalidWord r.word])
    ++ if bound.toInt < magnitude r.word then
        [.aboveBound (if r.negated then -magnitude r.word else magnitude r.word) bound]
      else []

/-- What there is to tell of a course. -/
def Course.events (bound : Number) (c : Course) : List Event :=
  c.header?.toList.map .header
    ++ c.words.flatMap (wordEvents bound)
    ++ c.tokens?.toList.map .tokens
    ++ c.ordered?.toList.map .reversePolish
    ++ c.result?.toList.map fun r => .result r.formula r.value

/-- **The course of a calculation**, for an entry that is not blank. -/
structure Course.Of (p : Policy) (entry : Text) (c : Course) : Prop where
  /-- There are delimiters to tell just if the entry has the marker and its header is accepted. -/
  header : ∀ ds, c.header? = some ds
    ↔ ['/', '/'] <+: entry ∧ ∃ t, (takeHeader p.delimiters entry).outcome = .ok (ds, t)
  /-- Behind a header that is refused no word is read. -/
  unread : ∀ reason, (takeHeader p.delimiters entry).outcome = .error reason → c.words = []
  /-- The words are those of the longest sentence that the expression begins with. A word that is refused
      for its place comes behind them. -/
  words : ∀ ds t, (takeHeader p.delimiters entry).outcome = .ok (ds, t) →
    ∃ ls front, Lexes (ds.toPlus t) ls ∧ IsLongest ls front ∧ Operands front c.words
      ∧ ∀ w, (readTokens ds p.bound t).outcome = .error (.invalidExpression (.operandForOperator w)) →
        front ++ [.operand w] <+: ls
  /-- There are tokens just if the scan has succeeded. -/
  tokens : ∀ ts, c.tokens? = some ts
    ↔ ∃ ds t negatives, (takeHeader p.delimiters entry).outcome = .ok (ds, t)
      ∧ (readTokens ds p.bound t).outcome = .ok (ts, negatives)
  /-- There is an order just if there are any tokens, no negative value is refused and the parentheses
      match. -/
  ordered : c.ordered?.isSome
    ↔ ∃ ds t ts negatives, (takeHeader p.delimiters entry).outcome = .ok (ds, t)
      ∧ (readTokens ds p.bound t).outcome = .ok (ts, negatives)
      ∧ ts ≠ [] ∧ (p.refusesNegatives → negatives = []) ∧ Balanced .lparen .rparen ts
  /-- It is the order of the tokens. -/
  ofTokens : ∀ ordered, c.ordered? = some ordered →
    ∃ ts, c.tokens? = some ts ∧ ReversePolish.ofTokens? ts = some ordered
  /-- There is a result just if the order can be evaluated. -/
  result : ∀ r, c.result? = some r
    ↔ ∃ ordered, c.ordered? = some ordered ∧ ReversePolish.evaluate ordered = .ok r

/-- No calculation has two courses. -/
theorem Course.Of.unique {p : Policy} {entry : Text} {c c' : Course} (h : c.Of p entry) (h' : c'.Of p entry) :
    c = c' := by
  have htokens : c.tokens? = c'.tokens? := by
    apply Option.ext
    intro ts
    rw [h.tokens, h'.tokens]
  have hordered : c.ordered? = c'.ordered? := by
    have hsome : c.ordered?.isSome ↔ c'.ordered?.isSome := by rw [h.ordered, h'.ordered]
    cases ho : c.ordered? with
    | none =>
      have hnone : ¬c'.ordered?.isSome := by
        rw [← hsome, ho]
        exact Bool.false_ne_true
      exact (Option.not_isSome_iff_eq_none.1 hnone).symm
    | some ordered =>
      obtain ⟨ordered', ho'⟩ := Option.isSome_iff_exists.1 (hsome.1 (by rw [ho]; rfl))
      obtain ⟨ts, hts, horder⟩ := h.ofTokens ordered ho
      obtain ⟨ts', hts', horder'⟩ := h'.ofTokens ordered' ho'
      rw [htokens, hts'] at hts
      cases hts
      rw [ho', ← horder, horder']
  have hwords : c.words = c'.words := by
    cases hheader : (takeHeader p.delimiters entry).outcome with
    | error reason => rw [h.unread reason hheader, h'.unread reason hheader]
    | ok header =>
      obtain ⟨ds, t⟩ := header
      obtain ⟨ls, front, hls, hlongest, hoperands, -⟩ := h.words ds t hheader
      obtain ⟨ls', front', hls', hlongest', hoperands', -⟩ := h'.words ds t hheader
      obtain rfl : ls = ls' := hls.eq_lexemes.trans hls'.eq_lexemes.symm
      obtain rfl : front = front' := hlongest.unique hlongest'
      rw [← Scan.readings_run_of_operands hoperands, Scan.readings_run_of_operands hoperands']
  refine Course.ext ?_ hwords htokens hordered ?_
  · apply Option.ext
    intro ds
    rw [h.header, h'.header]
  · apply Option.ext
    intro r
    rw [h.result, h'.result, hordered]

/-! ## The course as a function -/

theorem toOption_eq_some_iff {ε α : Type} {x : Except ε α} {a : α} : x.toOption = some a ↔ x = .ok a := by
  cases x <;> simp [Except.toOption]

/-- The order that a calculation gets to from its tokens. -/
def Course.order? (p : Policy) (ts : List (Token Number)) (negatives : List Int) :
    Option (List (Token Number)) :=
  if p.refusesNegatives ∧ negatives ≠ [] then none
  else if ts = [] then none
  else ReversePolish.ofTokens? ts

/-- The scan of an expression behind its header, if there is one. -/
def Course.ofScan (entry : Text) (ds : Delimiters) (t : Text) : Course where
  header? := if ['/', '/'] <+: entry then some ds else none
  words := (Scan.ofText ds t).readings

/-- The course that goes on from tokens. -/
def Course.withTokens (c : Course) (p : Policy) (ts : List (Token Number)) (negatives : List Int) : Course :=
  { c with
    tokens? := some ts
    ordered? := order? p ts negatives
    result? := (order? p ts negatives).bind fun ordered => (ReversePolish.evaluate ordered).toOption }

/-- What a calculation gets to. -/
def course (p : Policy) (entry : Text) : Course :=
  match (takeHeader p.delimiters entry).outcome with
  | .error _ => {}
  | .ok (ds, t) =>
    match (readTokens ds p.bound t).outcome with
    | .error _ => .ofScan entry ds t
    | .ok (ts, negatives) => (Course.ofScan entry ds t).withTokens p ts negatives

section Stages

variable {p : Policy} {entry t : Text} {ds : Delimiters} {ts : List (Token Number)} {negatives : List Int}

theorem course_of_refused {reason : HeaderError}
    (hheader : (takeHeader p.delimiters entry).outcome = .error reason) : course p entry = {} := by
  simp only [course, hheader]

theorem course_of_fault {e : CalculationError}
    (hheader : (takeHeader p.delimiters entry).outcome = .ok (ds, t))
    (hread : (readTokens ds p.bound t).outcome = .error e) : course p entry = .ofScan entry ds t := by
  simp only [course, hheader, hread]

theorem course_of_tokens (hheader : (takeHeader p.delimiters entry).outcome = .ok (ds, t))
    (hread : (readTokens ds p.bound t).outcome = .ok (ts, negatives)) :
    course p entry = (Course.ofScan entry ds t).withTokens p ts negatives := by
  simp only [course, hheader, hread]

theorem Course.isSome_order?_iff :
    (order? p ts negatives).isSome
      ↔ ts ≠ [] ∧ (p.refusesNegatives → negatives = []) ∧ Balanced .lparen .rparen ts := by
  unfold order?
  by_cases hrefused : p.refusesNegatives ∧ negatives ≠ []
  · rw [if_pos hrefused]
    have hnot : ¬(p.refusesNegatives → negatives = []) := fun hallowed => hrefused.2 (hallowed hrefused.1)
    simp [hnot]
  · rw [if_neg hrefused, ← ReversePolish.isSome_ofTokens?_iff]
    have hallowed : p.refusesNegatives → negatives = [] := Decidable.not_and_not_right.1 hrefused
    by_cases hts : ts = []
    · simp [hts]
    · rw [if_neg hts]
      exact ⟨fun h => ⟨hts, hallowed, h⟩, fun h => h.2.2⟩

theorem Course.ofTokens?_of_order? {ordered : List (Token Number)}
    (h : order? p ts negatives = some ordered) : ReversePolish.ofTokens? ts = some ordered := by
  unfold order? at h
  split at h
  · cases h
  · split at h
    · cases h
    · exact h

end Stages

/-- The words that a scan reads, and where a word that is refused for its place stands. -/
theorem exists_isLongest_ofText (ds : Delimiters) (bound : Number) (t : Text) :
    ∃ ls front, Lexes (ds.toPlus t) ls ∧ IsLongest ls front ∧ Operands front (Scan.ofText ds t).readings
      ∧ ∀ w, (readTokens ds bound t).outcome = .error (.invalidExpression (.operandForOperator w)) →
        front ++ [.operand w] <+: ls := by
  obtain ⟨front, hlongest, hoperands, hfault⟩ := Scan.exists_isLongest (lexemes (ds.toPlus t))
  refine ⟨_, front, lexes_lexemes _, hlongest, hoperands, ?_⟩
  intro w hread
  rw [outcome_readTokens] at hread
  split at hread
  · rename_i fault hsome
    cases hread
    obtain ⟨l, s, hbehind, hstep⟩ := hfault _ hsome
    rwa [Scan.eq_operand_of_step_eq_error hstep] at hbehind
  · cases hread

/-- **The course that is computed** is the course of the calculation. -/
theorem course_of (p : Policy) (entry : Text) : (course p entry).Of p entry := by
  cases hheader : (takeHeader p.delimiters entry).outcome with
  | error reason =>
    rw [course_of_refused hheader]
    constructor <;> simp [hheader]
  | ok header =>
    obtain ⟨ds, t⟩ := header
    -- what the header and the scan leave is the same, whether or not there are tokens
    have hheads : ∀ ds', (Course.ofScan entry ds t).header? = some ds'
        ↔ ['/', '/'] <+: entry ∧ ∃ t', (takeHeader p.delimiters entry).outcome = .ok (ds', t') := by
      simp [Course.ofScan, hheader]
    have hwords : ∀ ds' t', (takeHeader p.delimiters entry).outcome = .ok (ds', t') →
        ∃ ls front, Lexes (ds'.toPlus t') ls ∧ IsLongest ls front
          ∧ Operands front (Course.ofScan entry ds t).words
          ∧ ∀ w, (readTokens ds' p.bound t').outcome = .error (.invalidExpression (.operandForOperator w)) →
            front ++ [.operand w] <+: ls := by
      intro ds' t' h
      rw [hheader] at h
      cases h
      exact exists_isLongest_ofText ds p.bound t
    cases hread : (readTokens ds p.bound t).outcome with
    | error e =>
      rw [course_of_fault hheader hread]
      refine ⟨hheads, by simp [hheader], hwords, ?_, ?_, ?_, ?_⟩ <;> simp [Course.ofScan, hheader, hread]
    | ok read =>
      obtain ⟨ts, negatives⟩ := read
      rw [course_of_tokens hheader hread]
      refine ⟨hheads, by simp [hheader], hwords, ?_, ?_, ?_, ?_⟩
      · simp [Course.withTokens, hheader, hread]
      · simp [Course.withTokens, hheader, hread, Course.isSome_order?_iff]
      · intro ordered h
        exact ⟨ts, rfl, Course.ofTokens?_of_order? h⟩
      · simp [Course.withTokens, Option.bind_eq_some_iff, toOption_eq_some_iff]

/-! ## The log -/

/-- What the scan records of a word. -/
theorem Reading.events_eq (bound : Number) (r : Reading) : r.events bound = Course.wordEvents bound r := by
  rw [events, Course.wordEvents, exceeds, r.cast_magnitude, r.value_eq, Decimal.isNumeral]
  simp

/-- A header that is accepted leaves a message, and one that is refused leaves none. -/
theorem events_takeHeader (defaults : Delimiters) (entry : Text) :
    (takeHeader defaults entry).events
      = match (takeHeader defaults entry).outcome with
        | .error _ => []
        | .ok (ds, _) => if ['/', '/'] <+: entry then [.header ds] else [] := by
  by_cases hmarker : ['/', '/'] <+: entry
  · simp only [hmarker, if_true]
    obtain ⟨t, rfl⟩ := hmarker
    show (takeHeader defaults ('/' :: '/' :: t)).events = match (takeHeader defaults ('/' :: '/' :: t)).outcome with
      | .error _ => []
      | .ok (ds, _) => [.header ds]
    rw [outcome_takeHeader_marker, takeHeader]
    cases Header.read t <;> rfl
  · simp only [hmarker, if_false]
    rw [takeHeader_of_unmarked hmarker]
    rfl

/-- What the header and the scan record, in front of any tokens. -/
theorem events_ofScan {p : Policy} {entry t : Text} {ds : Delimiters}
    (hheader : (takeHeader p.delimiters entry).outcome = .ok (ds, t)) :
    (Course.ofScan entry ds t).events p.bound
      = (takeHeader p.delimiters entry).events ++ (readTokens ds p.bound t).events := by
  have hwords : (readTokens ds p.bound t).events
      = (Scan.ofText ds t).readings.flatMap (Course.wordEvents p.bound) := by
    show (Scan.ofText ds t).readings.flatMap (Reading.events p.bound) = _
    rw [funext (Reading.events_eq p.bound)]
  rw [events_takeHeader, hheader, hwords]
  by_cases hmarker : ['/', '/'] <+: entry <;> simp [Course.events, Course.ofScan, hmarker]

/-- What is recorded from the tokens on comes behind that. -/
theorem events_withTokens (bound : Number) (p : Policy) (entry t : Text) (ds : Delimiters)
    (ts : List (Token Number)) (negatives : List Int) :
    ((Course.ofScan entry ds t).withTokens p ts negatives).events bound
      = (Course.ofScan entry ds t).events bound
        ++ .tokens ts :: ((Course.order? p ts negatives).toList.map .reversePolish
          ++ ((Course.order? p ts negatives).bind fun ordered =>
              (ReversePolish.evaluate ordered).toOption).toList.map fun r => .result r.formula r.value) := by
  simp [Course.events, Course.withTokens, Course.ofScan]

/-- **The log of a calculation** is what its course has to tell. -/
theorem events_calculate {p : Policy} {entry : Text} (hblank : entry.isBlank = false) :
    (calculate p entry).events = (course p entry).events p.bound := by
  unfold calculate
  rw [hblank, if_neg (by decide)]
  cases hheader : (takeHeader p.delimiters entry).outcome with
  | error reason =>
    have hmapped : ((takeHeader p.delimiters entry).mapError CalculationError.malformedHeader).outcome
        = .error (.malformedHeader reason) := by
      rw [Logged.outcome_mapError, hheader]
      rfl
    rw [course_of_refused hheader, Logged.events_bind_of_error hmapped, Logged.events_mapError,
      events_takeHeader, hheader]
    rfl
  | ok header =>
    obtain ⟨ds, t⟩ := header
    have hmapped : ((takeHeader p.delimiters entry).mapError CalculationError.malformedHeader).outcome
        = .ok (ds, t) := by
      rw [Logged.outcome_mapError, hheader]
      rfl
    rw [Logged.events_bind_of_ok hmapped, Logged.events_mapError]
    cases hread : (readTokens ds p.bound t).outcome with
    | error e =>
      rw [course_of_fault hheader hread, Logged.events_bind_of_error hread, events_ofScan hheader]
    | ok read =>
      obtain ⟨ts, negatives⟩ := read
      rw [course_of_tokens hheader hread, Logged.events_bind_of_ok hread, events_withTokens,
        events_ofScan hheader, List.append_assoc]
      unfold Course.order?
      by_cases hneg : p.refusesNegatives ∧ negatives ≠ []
      · simp [hneg]
      · by_cases hts : ts = []
        · simp [hneg, hts]
        · simp only [hneg, hts, if_false]
          cases ReversePolish.ofTokens? ts with
          | none => simp
          | some ordered => simp [List.map_eq_flatMap]

/-- **The log tells the course of a calculation.** A calculation of an entry that is not blank has one course,
    and its log is what that course has to tell, in this order and nothing else: the delimiters of an accepted
    header, the words read as operands that are no numerals or lie above the bound, the tokens once all is
    read, their order if there is one to be made, and the result if the order has one. -/
theorem calculate_log (p : Policy) (entry : Text) (hblank : entry.isBlank = false) :
    (∃! c : Course, c.Of p entry)
    ∧ ∀ c : Course, c.Of p entry → (calculate p entry).events = c.events p.bound := by
  refine ⟨⟨course p entry, course_of p entry, fun c hc => hc.unique (course_of p entry)⟩, fun c hc => ?_⟩
  rw [hc.unique (course_of p entry)]
  exact events_calculate hblank

/-- Under a negative bound each word is beyond it, one that is no numeral too; the word behind the closing
    parenthesis is refused for its place. -/
theorem calculate_log_misplaced :
    ∃ c : Course, c.Of { refusesNegatives := false, bound := -1 } "//[;]\n(2;x)*-1001 y".toList
      ∧ (c.events (-1)).map Event.message
        = ["en-tête: délimiteurs \";\"".toList, "2 dépasse la borne -1 : compté pour 0".toList,
          "jeton invalide \"x\" compté pour 0".toList, "0 dépasse la borne -1 : compté pour 0".toList,
          "-1001 dépasse la borne -1 : compté pour 0".toList] := by
  obtain ⟨⟨c, hc, -⟩, hlog⟩ := calculate_log { refusesNegatives := false, bound := -1 }
    "//[;]\n(2;x)*-1001 y".toList (by decide +kernel)
  refine ⟨c, hc, ?_⟩
  rw [← hlog c hc]
  decide +kernel

end StringCalculator
