import StringCalculator.Event

/-!
# `StringCalculator.Logged` — outcomes with a log

A computation that may fail, with the events recorded on the way. What was recorded before a failure
stays recorded.

## Contents
- **`Logged`**, a monad: the events of both parts in order, the first failure ends it.
- **`record`, `fail`, `ofExcept`, `ofOption`, `mapError`**: building such computations.
-/

namespace StringCalculator

/-- An outcome with the events recorded on the way to it. -/
structure Logged (ε α : Type) where
  events : List Event
  outcome : Except ε α

namespace Logged

variable {ε ε' α β : Type}

/-- The first computation, then, if it succeeds, the one that follows from its value. -/
def andThen (x : Logged ε α) (f : α → Logged ε β) : Logged ε β :=
  match x.outcome with
  | .error e => ⟨x.events, .error e⟩
  | .ok a => ⟨x.events ++ (f a).events, (f a).outcome⟩

instance : Monad (Logged ε) where
  pure a := ⟨[], .ok a⟩
  bind := andThen

/-- Records the events. -/
def record (events : List Event) : Logged ε Unit := ⟨events, .ok ()⟩

/-- Fails. -/
def fail (e : ε) : Logged ε α := ⟨[], .error e⟩

/-- An outcome without events. -/
def ofExcept (outcome : Except ε α) : Logged ε α := ⟨[], outcome⟩

/-- A value, or the failure that stands for its absence. -/
def ofOption (e : ε) : Option α → Logged ε α
  | some a => ⟨[], .ok a⟩
  | none => fail e

/-- The computation with another failure. -/
def mapError (f : ε → ε') (x : Logged ε α) : Logged ε' α := ⟨x.events, x.outcome.mapError f⟩

/-! ## Events and outcome of a compound -/

@[simp] theorem events_pure (a : α) : (pure a : Logged ε α).events = [] := rfl

@[simp] theorem events_fail (e : ε) : (fail e : Logged ε α).events = [] := rfl

@[simp] theorem events_mapError (f : ε → ε') (x : Logged ε α) : (x.mapError f).events = x.events := rfl

@[simp] theorem outcome_mapError (f : ε → ε') (x : Logged ε α) :
    (x.mapError f).outcome = x.outcome.mapError f := rfl

@[simp] theorem outcome_bind (x : Logged ε α) (f : α → Logged ε β) :
    (x >>= f).outcome = x.outcome.bind fun a => (f a).outcome := by
  rcases x with ⟨_, e | a⟩ <;> rfl

theorem bind_of_ok {events : List Event} {a : α} (f : α → Logged ε β) :
    (⟨events, .ok a⟩ >>= f : Logged ε β) = ⟨events ++ (f a).events, (f a).outcome⟩ := rfl

theorem bind_of_error {events : List Event} {e : ε} (f : α → Logged ε β) :
    (⟨events, .error e⟩ >>= f : Logged ε β) = ⟨events, .error e⟩ := rfl

theorem events_bind_of_ok {x : Logged ε α} {a : α} (h : x.outcome = .ok a) (f : α → Logged ε β) :
    (x >>= f).events = x.events ++ (f a).events := by
  obtain ⟨events, outcome⟩ := x
  cases h
  rw [bind_of_ok]

theorem events_bind_of_error {x : Logged ε α} {e : ε} (h : x.outcome = .error e) (f : α → Logged ε β) :
    (x >>= f).events = x.events := by
  obtain ⟨events, outcome⟩ := x
  cases h
  rw [bind_of_error]

@[simp] theorem events_record_bind (events : List Event) (f : Unit → Logged ε β) :
    (record events >>= f).events = events ++ (f ()).events := rfl

@[simp] theorem events_ofExcept_bind (outcome : Except ε α) (f : α → Logged ε β) :
    (ofExcept outcome >>= f).events = outcome.toOption.toList.flatMap fun a => (f a).events := by
  cases outcome with
  | error e => rfl
  | ok a => exact (List.append_nil (f a).events).symm

@[simp] theorem events_ofOption_bind (e : ε) (a? : Option α) (f : α → Logged ε β) :
    (ofOption e a? >>= f).events = a?.toList.flatMap fun a => (f a).events := by
  cases a? with
  | none => rfl
  | some a => exact (List.append_nil (f a).events).symm

end Logged

end StringCalculator
