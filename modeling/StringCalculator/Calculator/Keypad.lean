import StringCalculator.Calculator

/-!
# `StringCalculator.Calculator.Keypad` — keys that write into the entry

A key writes one symbol behind the entry. Two symbols have two characters: the marker of a header
and the line feed as it is typed. An operator first takes away the spaces in front of it. Deleting
takes away the last symbol, as far as the entry itself tells what that is.

## Contents
- **`Key`**, with its `label`.
- **`Key.write`, `deleteSymbol`**: what a key and what deleting does to an entry.
- **`Button`, `Calculator.press`**: all buttons of the window.
-/

namespace StringCalculator

/-- A key that writes a symbol. -/
inductive Key where
  | digit (d : Fin 10)
  | lparen | rparen | comma
  /-- The marker of a header. -/
  | marker
  /-- A line feed as it is typed. -/
  | lineFeed
  | operator (o : Operator)
  deriving DecidableEq, Repr

namespace Key

/-- The symbol that the key shows and writes. -/
def label : Key → Text
  | digit d => Decimal.ofNat d
  | lparen => ['(']
  | rparen => [')']
  | comma => [',']
  | marker => ['/', '/']
  | lineFeed => ['\\', 'n']
  | operator o => [o.symbol]

/-- The entry with the key's symbol behind it. -/
def write (key : Key) (entry : Text) : Text :=
  match key with
  | operator _ => Text.dropEndWhile (· = ' ') entry ++ key.label
  | _ => entry ++ key.label

/-- All keys. -/
def all : List Key :=
  (List.finRange 10).map digit
    ++ [lparen, rparen, comma, marker, lineFeed]
    ++ [.add, .sub, .mul, .div].map operator

theorem mem_all (key : Key) : key ∈ all := by
  cases key with
  | operator o => cases o <;> simp [all]
  | _ => simp [all]

end Key

/-- The entry without its last symbol: two characters if they read as one symbol, else one. -/
def deleteSymbol (entry : Text) : Text :=
  if Key.lineFeed.label.isSuffixOf entry ∨ Key.marker.label.isSuffixOf entry then
    entry.dropLast.dropLast
  else entry.dropLast

/-! ## Buttons -/

/-- The buttons of the window. -/
inductive Button where
  | key (k : Key)
  | clearEntry | clearOutputs | reset | delete | evaluate
  deriving DecidableEq, Repr

/-- What the button shows. -/
def Button.label : Button → Text
  | key k => k.label
  | clearEntry => "C".toList
  | clearOutputs => "CLR".toList
  | reset => "AC".toList
  | delete => "DEL".toList
  | evaluate => "=".toList

/-- All buttons. -/
def Button.all : List Button :=
  [clearEntry, clearOutputs, reset, delete, evaluate] ++ Key.all.map key

/-- The button with that label. -/
def Button.ofLabel? (label : Text) : Option Button := Button.all.find? (·.label = label)

/-- What a button does. After each of them the entry field is to take the keyboard. -/
def Calculator.press (c : Calculator) : Button → Calculator
  | .key k => { c with entry := k.write c.entry, wantsFocus := true }
  | .clearEntry => c.clearEntry
  | .clearOutputs => c.clearOutputs
  | .reset => c.reset
  | .delete => { c with entry := deleteSymbol c.entry, wantsFocus := true }
  | .evaluate => c.evaluate

theorem Calculator.wantsFocus_press (c : Calculator) (b : Button) : (c.press b).wantsFocus := by
  cases b with
  | evaluate =>
    show c.evaluate.wantsFocus
    rw [evaluate_eq]
  | _ => rfl

end StringCalculator
