import SchemaTypes.Event

/-!
# Traced results

A computation that may fail and reports events on its way. A failure keeps the events before it.
-/

namespace SchemaTypes
set_option autoImplicit false

/-- The events of a computation and how it ended. -/
structure Traced (ε α : Type) where
  events : List Event
  result : Except ε α

namespace Traced

variable {ε α β : Type}

protected def pure (value : α) : Traced ε α := ⟨[], .ok value⟩

/-- Goes on with the value of `x`, unless `x` failed. -/
protected def bind (x : Traced ε α) (next : α → Traced ε β) : Traced ε β :=
  match x.result with
  | .error e => ⟨x.events, .error e⟩
  | .ok value => ⟨x.events ++ (next value).events, (next value).result⟩

instance : Monad (Traced ε) where
  pure := Traced.pure
  bind := Traced.bind

/-- Fails without an event. -/
def fail (e : ε) : Traced ε α := ⟨[], .error e⟩

/-- Reports one event. -/
def report (event : Event) : Traced ε Unit := ⟨[event], .ok ()⟩

/-- A result without events. -/
def ofExcept (result : Except ε α) : Traced ε α := ⟨[], result⟩

@[simp] theorem events_pure (value : α) : (pure value : Traced ε α).events = [] := rfl

@[simp] theorem result_pure (value : α) : (pure value : Traced ε α).result = .ok value := rfl

@[simp] theorem result_fail (e : ε) : (fail e : Traced ε α).result = .error e := rfl

@[simp] theorem result_report (event : Event) : (report event : Traced ε Unit).result = .ok () := rfl

@[simp] theorem result_ofExcept (result : Except ε α) : (ofExcept result).result = result := rfl

/-- A computation in two parts succeeds just when both parts do. -/
theorem result_bind_eq_ok {x : Traced ε α} {next : α → Traced ε β} {value : β} :
    (x >>= next).result = .ok value ↔ ∃ a, x.result = .ok a ∧ (next a).result = .ok value := by
  cases h : x.result <;> simp [bind, Traced.bind, h]

/-- A failure ends the computation. -/
theorem bind_of_error {x : Traced ε α} {e : ε} (next : α → Traced ε β) (h : x.result = .error e) :
    x >>= next = ⟨x.events, .error e⟩ := by
  simp [bind, Traced.bind, h]

/-- A success hands its value on. -/
theorem bind_of_ok {x : Traced ε α} {value : α} (next : α → Traced ε β) (h : x.result = .ok value) :
    x >>= next = ⟨x.events ++ (next value).events, (next value).result⟩ := by
  simp [bind, Traced.bind, h]

end Traced

end SchemaTypes
