import StringCalculator.Event

/-!
# `StringCalculator.Terminal.Transcript` — what is written, and when

The output of the program and its log go to one place, so a transcript holds texts and events in the
order in which they come about. Without the log only the texts are shown.

## Contents
- **`Transcript`**, with its parts `output` and `events`.
- **`Transcript.shown`**: everything as it appears, with or without the log.
-/

namespace StringCalculator

/-- Texts and events in the order in which they come about. -/
inductive Transcript.Entry where
  | text (t : Text)
  | event (e : Event)
  deriving DecidableEq

/-- What is written, and when. -/
abbrev Transcript := List Transcript.Entry

namespace Transcript

/-- The events as entries. -/
def ofEvents (events : List Event) : Transcript := events.map .event

/-- The texts alone, one after the other. -/
def output (t : Transcript) : Text :=
  t.flatMap fun
    | .text t => t
    | .event _ => []

/-- The events alone. -/
def events (t : Transcript) : List Event :=
  t.filterMap fun
    | .text _ => none
    | .event e => some e

/-- The texts with each event as a line of the log between them. -/
def withLog (t : Transcript) : Text :=
  t.flatMap fun
    | .text t => t
    | .event e => e.logLine

/-- What appears, with the log or without. -/
def shown (log : Bool) (t : Transcript) : Text := if log then t.withLog else t.output

@[simp] theorem output_nil : output [] = [] := rfl

@[simp] theorem output_text (s : Text) (t : Transcript) :
    output (.text s :: t) = s ++ t.output := rfl

@[simp] theorem output_event (e : Event) (t : Transcript) :
    output (.event e :: t) = t.output := rfl

@[simp] theorem output_append (s t : Transcript) : (s ++ t).output = s.output ++ t.output := by
  simp [output]

@[simp] theorem output_ofEvents (events : List Event) : (ofEvents events).output = [] := by
  induction events with
  | nil => rfl
  | cons e events ih => exact ih

end Transcript

end StringCalculator
