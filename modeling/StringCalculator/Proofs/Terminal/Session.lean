import Mathlib.Data.List.Forall2
import StringCalculator.Proofs.Terminal.Lines

/-!
# `StringCalculator.Proofs.Terminal.Session` — what is written in a session

A session is a loop over the lines of its input, and its transcript can be told without the loop: the
lines in front are answered one by one, each by itself, up to the first line that ends the session; what
is written then depends on why it ends (`Ending`). An answer that reports an error is an answer like any
other.

The loop is followed line by line. `converse_append` takes off the lines that are answered,
`Ending.converse_eq` is the last round, and `exists_ending` cuts any lines in two at the place where the
session ends. So the transcript exists, and there is no other (`session_transcript`).

## Contents
- **`Holds.reply_eq`**, **`reply_of_unreadable`**: what a line leads to.
- **`Ending`**, **`Ending.converse_eq`**: the end of a session.
- **`exchange`**, **`converse_append`**: the lines that are answered.
- **`session_transcript`**: the whole session.
-/

namespace StringCalculator.Terminal

variable {p : Policy} {lastWords : Text} {line : List UInt8} {s : Text}

/-! ## One line -/

/-- An entry is answered, unless it ends the session. -/
theorem Holds.reply_eq (h : Holds line s) :
    reply p line = if asksToExit s then .exit else .answer (answer p s) := by
  obtain ⟨t, hdecoded, hs⟩ := holds_iff.1 h
  rw [reply, hdecoded, ← hs]

/-- Bytes that are the UTF-8 form of no text cannot be read. -/
theorem reply_of_unreadable (h : ∀ t, line ≠ encode t) : reply p line = .unreadable := by
  have hdecoded : decodeLine? line = none :=
    Option.eq_none_iff_forall_ne_some.2 fun t ht => h t (decodeLine?_eq_some_iff.1 ht)
  rw [reply, hdecoded]

/-- A line that is the UTF-8 form of a text holds an entry. -/
theorem exists_holds_or (line : List UInt8) : (∃ s, Holds line s) ∨ ∀ t, line ≠ encode t := by
  cases hdecoded : decodeLine? line with
  | some t => exact .inl ⟨_, holds_iff.2 ⟨t, hdecoded, rfl⟩⟩
  | none =>
    refine .inr fun t hline => ?_
    rw [decodeLine?_eq_some_iff.2 hline] at hdecoded
    cases hdecoded

/-! ## The end of a session -/

/-- **How a session ends**, given the lines that are left, with the words behind the last prompt and whether
    it failed: there are no more lines, or the next one says `exit`, or the next one cannot be read. -/
inductive Ending (lastWords : Text) : List (List UInt8) → Text → Bool → Prop
  | input : Ending lastWords [] lastWords false
  | exit {line lines s} : Holds line s → SaysExit s → Ending lastWords (line :: lines) farewell false
  | unreadable {line lines} : (∀ t, line ≠ encode t) → Ending lastWords (line :: lines) [] true

/-- The last round. -/
theorem Ending.converse_eq {lines : List (List UInt8)} {words : Text} {failed : Bool}
    (h : Ending lastWords lines words failed) :
    (converse p lastWords lines).transcript.output = prompt ++ words
      ∧ (converse p lastWords lines).failed = failed := by
  cases h with
  | input => exact ⟨by simp [converse], rfl⟩
  | exit hholds hexit =>
    have hreply := hholds.reply_eq (p := p)
    rw [if_pos (asksToExit_iff.2 hexit)] at hreply
    rw [converse, hreply]
    exact ⟨by simp, rfl⟩
  | unreadable hunreadable =>
    rw [converse, reply_of_unreadable hunreadable]
    exact ⟨by simp, rfl⟩

/-! ## The lines that are answered -/

/-- What is written for one entry: the prompt it was typed behind, and its answer. -/
def exchange (p : Policy) (s : Text) : Text := prompt ++ (answer p s).transcript.output

/-- The first entry is answered, and the session goes on, whatever the answer reports. -/
theorem converse_cons (p : Policy) (lastWords : Text) (h : Holds line s) (hexit : ¬SaysExit s)
    (lines : List (List UInt8)) :
    (converse p lastWords (line :: lines)).transcript.output
        = exchange p s ++ (converse p lastWords lines).transcript.output
      ∧ (converse p lastWords (line :: lines)).failed = (converse p lastWords lines).failed := by
  have hreply := h.reply_eq (p := p)
  rw [if_neg (mt asksToExit_iff.1 hexit)] at hreply
  rw [converse, hreply]
  exact ⟨by simp [exchange], rfl⟩

/-- **All entries in front are answered** in order, each by itself. -/
theorem converse_append {front : List (List UInt8)} {entries : List Text}
    (hholds : List.Forall₂ Holds front entries) (hgoes : ∀ s ∈ entries, ¬SaysExit s)
    (rest : List (List UInt8)) :
    (converse p lastWords (front ++ rest)).transcript.output
        = entries.flatMap (exchange p) ++ (converse p lastWords rest).transcript.output
      ∧ (converse p lastWords (front ++ rest)).failed = (converse p lastWords rest).failed := by
  induction hholds with
  | nil => exact ⟨rfl, rfl⟩
  | @cons line s front entries hline _ ih =>
    obtain ⟨houtput, hfailed⟩ := ih fun s hs => hgoes s (List.mem_cons_of_mem _ hs)
    obtain ⟨hfirst, hfirst_failed⟩ :=
      converse_cons p lastWords hline (hgoes s List.mem_cons_self) (front ++ rest)
    rw [List.cons_append, hfirst, hfirst_failed, houtput, hfailed, List.flatMap_cons, List.append_assoc]
    exact ⟨rfl, rfl⟩

/-- **Every session comes to its end**: behind the entries that are answered there are no more lines, or
    there is one that ends the session. -/
theorem exists_ending (lastWords : Text) (lines : List (List UInt8)) :
    ∃ front rest entries words failed, lines = front ++ rest ∧ List.Forall₂ Holds front entries
      ∧ (∀ s ∈ entries, ¬SaysExit s) ∧ Ending lastWords rest words failed := by
  -- the first line that is not answered is where the lines are cut
  induction lines with
  | nil => exact ⟨[], [], [], lastWords, false, rfl, .nil, by simp, .input⟩
  | cons line lines ih =>
    rcases exists_holds_or line with ⟨s, hholds⟩ | hunreadable
    · by_cases hexit : SaysExit s
      · exact ⟨[], line :: lines, [], farewell, false, rfl, .nil, by simp, .exit hholds hexit⟩
      · obtain ⟨front, rest, entries, words, failed, rfl, hfront, hgoes, hending⟩ := ih
        exact ⟨line :: front, rest, s :: entries, words, failed, rfl, .cons hholds hfront,
          List.forall_mem_cons.2 ⟨hexit, hgoes⟩, hending⟩
    · exact ⟨[], line :: lines, [], [], true, rfl, .nil, by simp, .unreadable hunreadable⟩

/-! ## The whole session -/

/-- **A session is its transcript.** The input is cut into lines. Those in front hold entries that do not
    end the session; the greeting is written, then for each of them in order the prompt and its answer,
    which depends on this entry and the policy alone, then one more prompt and the last words. These are
    the farewell where the input ends or the next line says `exit`; there are none, and the session has
    failed, if the next line is not valid UTF-8. Nothing else can be written for this input. -/
theorem session_transcript (p : Policy) (input : List UInt8) (output : Text) (failed : Bool) :
    ((session p input).transcript.output = output ∧ (session p input).failed = failed)
      ↔ ∃ front rest entries lastWords, LinesOf input (front ++ rest)
        ∧ List.Forall₂ Holds front entries ∧ (∀ s ∈ entries, ¬SaysExit s)
        ∧ Ending farewell rest lastWords failed
        ∧ output = banner ++ entries.flatMap (fun s => prompt ++ (answer p s).transcript.output)
            ++ prompt ++ lastWords := by
  -- every description of the input as on the right tells what is written
  have hwritten {front rest entries lastWords failed} (hlines : LinesOf input (front ++ rest))
      (hholds : List.Forall₂ Holds front entries) (hgoes : ∀ s ∈ entries, ¬SaysExit s)
      (hending : Ending farewell rest lastWords failed) :
      (session p input).transcript.output = banner ++ entries.flatMap (exchange p) ++ prompt ++ lastWords
        ∧ (session p input).failed = failed := by
    obtain ⟨hfront, hfront_failed⟩ := converse_append (p := p) hholds hgoes rest
    obtain ⟨hlast, hlast_failed⟩ := hending.converse_eq (p := p)
    rw [session, greeted, ← linesOf_iff.1 hlines]
    refine ⟨?_, hfront_failed.trans hlast_failed⟩
    rw [Transcript.output_text, hfront, hlast, List.append_assoc, List.append_assoc]
  constructor
  · rintro ⟨rfl, rfl⟩
    obtain ⟨front, rest, entries, lastWords, failed, hsplit, hholds, hgoes, hending⟩ :=
      exists_ending farewell (splitLines input)
    have hlines : LinesOf input (front ++ rest) := hsplit ▸ linesOf_splitLines input
    obtain ⟨houtput, rfl⟩ := hwritten hlines hholds hgoes hending
    exact ⟨front, rest, entries, lastWords, hlines, hholds, hgoes, hending, houtput⟩
  · rintro ⟨front, rest, entries, lastWords, hlines, hholds, hgoes, hending, rfl⟩
    exact hwritten hlines hholds hgoes hending

/-- One line that is answered, and all that is written around it. -/
example : (session {} (encode ("1,2\nexit\n".toList))).transcript.output =
    Text.ofLines
      ["String Calculator",
        "Enter a mathematical expression using numbers, operators (+, -, *, /), " ++
          "parentheses and delimiters.",
        "You can also use custom delimiters in the format: //[delimiter]\\n[expression] " ++
          "(type \\n literally).",
        "Available command-line options:",
        "--delimiter=\"[delimiter]\" to add a delimiter to the defaults.",
        "--allow-negative to allow negative numbers.",
        "--upper-bound=[number] to set the upper bound for numbers.",
        "Type 'exit' or press Ctrl+C to quit."]
      ++ "\nInput: Formula: (1 + 2) = 3\nResult: 3\n\nInput: Exiting the program...\n".toList := by
  rw [session, greeted, Transcript.output_text]
  exact congrArg (banner ++ ·) (by decide +kernel)

end StringCalculator.Terminal
