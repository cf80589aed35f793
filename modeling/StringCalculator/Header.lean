import StringCalculator.Delimiters

/-!
# `StringCalculator.Header` — the delimiter header

A text may declare its own delimiters in a first line behind the marker `//`. The body of that line
is one delimiter as it stands, or one or more groups, each a delimiter between square brackets.
Brackets inside a group must match, so that a delimiter may hold balanced brackets of its own.

## Contents
- **`splitLine?`**: the text before the first line feed and the text behind it.
- **`closing?`, `groups`**: the groups of a body, found by counting bracket depth.
- **`body`**: the delimiters that a body declares, or the reason why it is refused.
- **`read`**: the whole header behind the marker.
-/

namespace StringCalculator.Header

/-! ## The line -/

/-- The text before the first line feed and the text behind it. -/
def splitLine? : Text → Option (Text × Text)
  | [] => none
  | c :: t =>
    if c = '\n' then some ([], t)
    else (splitLine? t).map fun (line, rest) => (c :: line, rest)

/-- **The first line feed ends the line.** Whatever stands behind it is the rest. -/
theorem splitLine?_eq_some_iff {t line rest : Text} :
    splitLine? t = some (line, rest) ↔ t = line ++ '\n' :: rest ∧ '\n' ∉ line := by
  induction t generalizing line with
  | nil => simp [splitLine?]
  | cons c t ih =>
    by_cases h : c = '\n'
    · subst h
      cases line with
      | nil => simp [splitLine?]
      | cons d line => simp +contextual [splitLine?, eq_comm]
    · cases line with
      | nil => simp [splitLine?, h]
      | cons d line =>
        simp only [splitLine?, h, if_false, Option.map_eq_some_iff, Prod.exists, Prod.mk.injEq,
          List.cons.injEq, List.cons_append, List.mem_cons]
        constructor
        · rintro ⟨line, rest, found, ⟨rfl, rfl⟩, rfl⟩
          obtain ⟨rfl, free⟩ := ih.1 found
          exact ⟨⟨rfl, rfl⟩, by simp [free, Ne.symm h]⟩
        · rintro ⟨⟨rfl, rfl⟩, free⟩
          exact ⟨line, rest, ih.2 ⟨rfl, fun m => free (.inr m)⟩, ⟨rfl, rfl⟩, rfl⟩

/-- The line without one carriage return at its end. -/
def withoutReturn (line : Text) : Text :=
  if line.getLast? = some '\r' then line.dropLast else line

/-! ## Groups -/

/-- Cuts a text inside `depth` open brackets, and one more around them all, at the bracket that
    closes the outermost: what is in front of that bracket and what is behind it. -/
def closing? : (depth : Nat) → Text → Option (Text × Text)
  | _, [] => none
  | 0, ']' :: t => some ([], t)
  | depth + 1, ']' :: t => (closing? depth t).map fun (inside, rest) => (']' :: inside, rest)
  | depth, '[' :: t => (closing? (depth + 1) t).map fun (inside, rest) => ('[' :: inside, rest)
  | depth, c :: t => (closing? depth t).map fun (inside, rest) => (c :: inside, rest)

/-- Nothing but the closing bracket is lost. -/
theorem eq_append_of_closing? {depth : Nat} {t inside rest : Text}
    (h : closing? depth t = some (inside, rest)) : t = inside ++ ']' :: rest := by
  fun_induction closing? depth t generalizing inside with
  | case1 => simp at h
  | case2 => simp_all
  | case3 _ t ih | case4 _ t ih | case5 _ c t _ _ _ ih =>
    simp only [Option.map_eq_some_iff, Prod.exists, Prod.mk.injEq] at h
    obtain ⟨inside, rest, found, rfl, rfl⟩ := h
    rw [ih found, List.cons_append]

/-- The delimiters of a body made of groups, repetitions included. -/
def groups : Text → Except HeaderError (List Text)
  | [] => .ok []
  | '[' :: t =>
    match _h : closing? 0 t with
    | none => .error .bracketSyntax
    | some ([], _) => .error .emptyDelimiter
    | some (inside, rest) => (groups rest).map (inside :: ·)
  | _ => .error .bracketSyntax
termination_by t => t.length
decreasing_by
  have := congrArg List.length (eq_append_of_closing? _h)
  simp only [List.length_append, List.length_cons] at this ⊢
  omega

/-! ## The body and the header -/

/-- The delimiters that a body declares. -/
def body (b : Text) : Except HeaderError Delimiters :=
  if b = [] then .error .emptyDelimiter
  else
    match b.head? == some '[', b.getLast? == some ']' with
    | true, true => groups b >>= Delimiters.ofList
    | false, false =>
      if '[' ∈ b ∨ ']' ∈ b then .error .bracketInPlainDelimiter else Delimiters.ofList [b]
    | _, _ => .error .mismatchedBrackets

/-- Reads a text behind the marker: the delimiters of its first line, and the expression behind
    that line. -/
def read (t : Text) : Except HeaderError (Delimiters × Text) :=
  match splitLine? t with
  | none => .error .missingTerminator
  | some (line, rest) => (body (withoutReturn line)).map fun ds => (ds, rest)

end StringCalculator.Header
