import LayeredSettings.Event.Basic

/-
  This file defines computations that report events.

  Key definitions include:
    * `Logged`
    * `Logged.emit`
    * `Attempt`
    * `Attempt.outcome`

  Key theorems include:
    * `Logged.value_bind`
    * `Logged.events_bind`
    * `Attempt.outcome_bind`

  A computation is its value together with its events, so
  both are plain data.  The value never depends on events.
-/

namespace LayeredSettings

/- A value and the events reported on the way to it. -/
structure Logged
    (α : Type) where
  value : α
  events : List Event

namespace Logged

variable {α β : Type}

instance : Monad Logged where
  pure a := ⟨a, []⟩
  bind x f :=
    ⟨(f x.value).value, x.events ++ (f x.value).events⟩

/- Report one event. -/
def emit
    (e : Event) : Logged Unit :=
  ⟨(), [e]⟩

@[simp]
theorem value_pure
    (a : α) :
    (pure a : Logged α).value = a := rfl

@[simp]
theorem events_pure
    (a : α) :
    (pure a : Logged α).events = [] := rfl

@[simp]
theorem value_bind
    (x : Logged α)
    (f : α → Logged β) :
    (x >>= f).value = (f x.value).value := rfl

@[simp]
theorem events_bind
    (x : Logged α)
    (f : α → Logged β) :
    (x >>= f).events =
      x.events ++ (f x.value).events := rfl

@[simp]
theorem value_map
    (f : α → β)
    (x : Logged α) :
    (f <$> x).value = f x.value := rfl

@[simp]
theorem events_map
    (f : α → β)
    (x : Logged α) :
    (f <$> x).events = x.events :=
  List.append_nil x.events

@[simp]
theorem value_emit
    (e : Event) :
    (emit e).value = () := rfl

@[simp]
theorem events_emit
    (e : Event) :
    (emit e).events = [e] := rfl

instance : LawfulMonad Logged :=
  LawfulMonad.mk' Logged
    (fun x => by
      simp [Functor.map])
    (fun a f => by
      simp [Pure.pure, Bind.bind])
    (fun x f g => by
      simp [Bind.bind, List.append_assoc])

end Logged

/- A computation that reports events and may fail. -/
abbrev Attempt
    (ε α : Type) :=
  ExceptT ε Logged α

namespace Attempt

variable {ε δ α β : Type}

/- What an attempt comes to, whatever it reports. -/
def outcome
    (x : Attempt ε α) : Except ε α :=
  x.run.value

@[simp]
theorem outcome_pure
    (a : α) :
    outcome (pure a : Attempt ε α) = .ok a := rfl

@[simp]
theorem outcome_throw
    (e : ε) :
    outcome (throw e : Attempt ε α) = .error e := rfl

@[simp]
theorem outcome_lift
    (x : Logged α) :
    outcome (liftM x : Attempt ε α) = .ok x.value := rfl

/- An attempt goes on exactly after a success. -/
@[simp]
theorem outcome_bind
    (x : Attempt ε α)
    (f : α → Attempt ε β) :
    outcome (x >>= f) =
      match outcome x with
      | .ok a => outcome (f a)
      | .error e => .error e := by
  change (ExceptT.bindCont f x.run.value).value = _
  unfold outcome
  cases x.run.value with
  | ok a => rfl
  | error e => rfl

@[simp]
theorem outcome_map
    (f : α → β)
    (x : Attempt ε α) :
    outcome (f <$> x) = (outcome x).map f := by
  rw [map_eq_pure_bind, outcome_bind]
  cases outcome x with
  | ok a => rfl
  | error e => rfl

@[simp]
theorem outcome_adapt
    (x : Attempt ε α)
    (f : ε → δ) :
    outcome (x.adapt f) = (outcome x).mapError f := rfl

end Attempt

end LayeredSettings
