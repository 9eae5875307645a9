import SchemaTypes.Proofs.Json.Spelling

/-!
# Running readers

What a reader gives on a text, without the bound that it keeps for the loops: each combinator gives what its
parts give.
-/

namespace SchemaTypes.Json
set_option autoImplicit false

variable {α β : Type} {n : Nat}

/-- A value and what is left behind it, without the bound. -/
def unbounded : Except Failure (α × UpTo n) → Except Failure (α × Bytes)
  | .error failure => .error failure
  | .ok (value, rest) => .ok (value, rest.val)

@[simp] theorem unbounded_error (failure : Failure) :
    unbounded (.error failure : Except Failure (α × UpTo n)) = .error failure := rfl

@[simp] theorem unbounded_ok (value : α) (rest : UpTo n) : unbounded (.ok (value, rest)) = .ok (value, rest.val) := rfl

namespace Reader

theorem run_eq (reader : Reader α) (s : Bytes) : reader.run s = unbounded (reader s) := by
  unfold run
  cases reader s <;> rfl

theorem run_eq_ok {reader : Reader α} {s r : Bytes} {value : α} (read : reader.run s = .ok (value, r)) :
    ∃ bound : r.length ≤ s.length, reader s = .ok (value, ⟨r, bound⟩) := by
  rw [run_eq] at read
  cases result : reader s with
  | error failure =>
    rw [result] at read
    cases read
  | ok pair =>
    rw [result] at read
    cases read
    exact ⟨pair.2.property, rfl⟩

@[simp] theorem run_pure (value : α) (s : Bytes) : (pure value : Reader α).run s = .ok (value, s) := rfl

theorem run_bind (reader : Reader α) (next : α → Reader β) (s : Bytes) :
    (reader >>= next).run s =
      match reader.run s with
      | .error failure => .error failure
      | .ok (value, rest) => (next value).run rest := by
  simp only [run_eq, Bind.bind, Reader.bind]
  cases reader s with
  | error failure => rfl
  | ok result =>
    obtain ⟨value, rest⟩ := result
    simp only [unbounded_ok]
    cases next value rest.val <;> rfl

/-- What is read first is taken from the front, and the next reader goes on with the rest. -/
theorem run_bind_ok {reader : Reader α} {next : α → Reader β} {s r : Bytes} {value : α}
    (first : reader.run s = .ok (value, r)) : (reader >>= next).run s = (next value).run r := by
  rw [run_bind, first]

theorem run_bind_error {reader : Reader α} {next : α → Reader β} {s : Bytes} {failure : Failure}
    (first : reader.run s = .error failure) : (reader >>= next).run s = .error failure := by
  rw [run_bind, first]

theorem run_bind_bind {γ : Type} (reader : Reader α) (next : α → Reader β) (last : β → Reader γ) (s : Bytes) :
    ((reader >>= next) >>= last).run s = (reader >>= fun value => next value >>= last).run s := by
  simp only [run_bind]
  cases reader.run s <;> rfl

@[simp] theorem run_failHere (cause : Cause) (s : Bytes) :
    (failHere cause : Reader α).run s = .error ⟨cause, s.length, []⟩ := rfl

@[simp] theorem run_failAtNext (cause : Cause) (s : Bytes) :
    (failAtNext cause : Reader α).run s = .error ⟨cause, s.length - 1, []⟩ := rfl

@[simp] theorem run_peek (s : Bytes) : peek.run s = .ok (s.head?, s) := rfl

@[simp] theorem run_next (b : UInt8) (s : Bytes) : next.run (b :: s) = .ok (some b, s) := rfl

@[simp] theorem run_advance (b : UInt8) (s : Bytes) : advance.run (b :: s) = .ok ((), s) := rfl

@[simp] theorem run_takeWhile (p : UInt8 → Bool) (s : Bytes) :
    (takeWhile p).run s = .ok (s.takeWhile p, s.dropWhile p) := rfl

/-- A word is read where it stands. -/
theorem run_word (w s : Bytes) : (word w).run (w ++ s) = .ok ((), s) := by
  induction w with
  | nil => rfl
  | cons b more ih =>
    rw [List.cons_append, word, run_bind_ok (run_next b _)]
    simp only [if_true, ih]

/-- What is wrong inside a value is told with the step to it. -/
theorem run_within (step : Step) (reader : Reader α) (s : Bytes) :
    (within step reader).run s =
      match reader.run s with
      | .error failure => .error (failure.within step)
      | .ok result => .ok result := by
  simp only [run_eq, within]
  cases reader s <;> rfl

end Reader

namespace Blanks

theorem append {s t u : Bytes} (first : Blanks s t) (second : Blanks t u) : Blanks s u := by
  induction first with
  | none => exact second
  | blank isBlank _ ih => exact .blank isBlank (ih second)

/-- Blanks in front of another byte are skipped. -/
theorem dropWhile_eq {s t : Bytes} {b : UInt8} (blanks : Blanks s (b :: t)) (visible : Reader.isBlank b = false) :
    s.dropWhile Reader.isBlank = b :: t := by
  generalize front : b :: t = r at blanks
  induction blanks with
  | none => rw [← front, List.dropWhile_cons, visible, if_neg Bool.false_ne_true]
  | blank blank _ ih => rw [List.dropWhile_cons, if_pos blank, ih front]

theorem dropWhile_eq_nil {s : Bytes} (blanks : Blanks s []) : s.dropWhile Reader.isBlank = [] := by
  generalize front : ([] : Bytes) = r at blanks
  induction blanks with
  | none => rw [← front, List.dropWhile_nil]
  | blank blank _ ih => rw [List.dropWhile_cons, if_pos blank, ih front]

theorem run_peekToken {s t : Bytes} {b : UInt8} (blanks : Blanks s (b :: t))
    (visible : Reader.isBlank b = false) : Reader.peekToken.run s = .ok (some b, b :: t) := by
  rw [Reader.peekToken, Reader.run_bind_ok (Reader.run_takeWhile _ _), blanks.dropWhile_eq visible]
  rfl

end Blanks

end SchemaTypes.Json
