import SchemaTypes.Proofs.Json.Skipping

/-!
# What is read of a value

A reader depends on a text only through the value that is spelled there: what it makes of a value is a function of
that value, and the same for all spellings. This module says so of the readers for values without entries.
-/

namespace SchemaTypes.Json
set_option autoImplicit false

open Ascii Reader

variable {α β : Type}

/-- Why a value is refused: what is wrong, and the steps to the value at fault. -/
structure Refusal where
  cause : Cause
  path : List Step
deriving DecidableEq, Repr

/-- What comes of a value: something that is read, or a refusal. A number in the place of something else is
refused in words that depend on its magnitude; these are left open. -/
abbrev Outcome (α : Type) := Except (Option Refusal) α

/-- An outcome seen from the value that `step` leads out of. -/
def Outcome.within (step : Step) : Outcome α → Outcome α
  | .error refusal => .error (refusal.map fun r => ⟨r.cause, step :: r.path⟩)
  | .ok value => .ok value

theorem Outcome.within_map (step : Step) (g : α → β) (outcome : Outcome α) :
    Outcome.within step (g <$> outcome) = g <$> outcome.within step := by
  cases outcome <;> rfl

/-- A reader comes to the outcome, and leaves `rest` where it reads a value. -/
inductive Meets (rest : Bytes) : Except Failure (α × Bytes) → Outcome α → Prop where
  | read (value : α) : Meets rest (.ok (value, rest)) (.ok value)
  | refused (cause : Cause) (unread : Nat) (path : List Step) :
    Meets rest (.error ⟨cause, unread, path⟩) (.error (some ⟨cause, path⟩))
  | open_ (failure : Failure) : Meets rest (.error failure) (.error none)

namespace Meets

variable {s t r : Bytes} {reader : Reader α} {outcome : Outcome α}

theorem bind {next : α → Reader β} {further : α → Outcome β} (first : Meets t (reader.run s) outcome)
    (second : ∀ value, Meets r ((next value).run t) (further value)) :
    Meets r ((reader >>= next).run s) (outcome >>= further) := by
  rw [run_bind]
  generalize reader.run s = result at first ⊢
  cases first with
  | read value => exact second value
  | refused => exact .refused _ _ _
  | open_ => exact .open_ _

theorem within (step : Step) (meets : Meets r (reader.run s) outcome) :
    Meets r ((Reader.within step reader).run s) (outcome.within step) := by
  rw [run_within]
  generalize reader.run s = result at meets ⊢
  cases meets with
  | read value => exact .read value
  | refused => exact .refused _ _ _
  | open_ => exact .open_ _

end Meets

/-- On each spelling of a value the reader comes to what `f` says. -/
def Reader.Follows (reader : Reader α) (f : Value → Outcome α) : Prop :=
  ∀ ⦃v : Value⦄ ⦃s t r : Bytes⦄, Blanks s t → Spells v t r → Meets r (reader.run s) (f v)

/-- What is read may be put into something larger. -/
theorem Reader.Follows.bind_pure {reader : Reader α} {f : Value → Outcome α} (follows : reader.Follows f)
    (g : α → β) : (reader >>= fun value => pure (g value)).Follows fun v => f v >>= fun value => pure (g value) :=
  fun _ _ _ _ before spelled => (follows before spelled).bind fun value => .read (g value)

/-- The refusal of a value where another kind is expected. -/
def Value.misfit (expected : Expected) : Value → Option Refusal
  | .null => some ⟨.wrongKind .null expected, []⟩
  | .boolean value => some ⟨.wrongKind (.boolean value) expected, []⟩
  | .number _ => none
  | .string text => some ⟨.wrongKind (.string text) expected, []⟩
  | .list _ => some ⟨.wrongKind .sequence expected, []⟩
  | .object _ => some ⟨.wrongKind .map expected, []⟩

section kinds

variable {v : Value} {b : UInt8} {s r : Bytes}

theorem Spells.null_eq (spelled : Spells .null s r) : s = byte 'n' :: (bytes "ull" ++ r) := by
  cases spelled
  rfl

theorem Spells.true_eq (spelled : Spells (.boolean true) s r) : s = byte 't' :: (bytes "rue" ++ r) := by
  cases spelled
  rfl

theorem Spells.false_eq (spelled : Spells (.boolean false) s r) : s = byte 'f' :: (bytes "alse" ++ r) := by
  cases spelled
  rfl

theorem Value.Leads.eq_null (leads : v.Leads (byte 'n')) : v = .null := by
  cases v with
  | null => rfl
  | boolean value => cases value <;> cases leads
  | number => rcases leads with leads | leads <;> cases leads
  | _ => cases leads

theorem Value.Leads.eq_string (leads : v.Leads quote) : ∃ text, v = .string text := by
  cases v with
  | string text => exact ⟨text, rfl⟩
  | boolean value => cases value <;> cases leads
  | number => rcases leads with leads | leads <;> cases leads
  | _ => cases leads

theorem Value.Leads.eq_list (leads : v.Leads openBracket) : ∃ elements, v = .list elements := by
  cases v with
  | list elements => exact ⟨elements, rfl⟩
  | boolean value => cases value <;> cases leads
  | number => rcases leads with leads | leads <;> cases leads
  | _ => cases leads

theorem Value.Leads.eq_object (leads : v.Leads openBrace) : ∃ members, v = .object members := by
  cases v with
  | object members => exact ⟨members, rfl⟩
  | boolean value => cases value <;> cases leads
  | number => rcases leads with leads | leads <;> cases leads
  | _ => cases leads

end kinds

/-- What fails behind a reading fails, whatever is read. -/
theorem run_bind_failHere (reader : Reader α) (cause : α → Cause) (s : Bytes) :
    ∃ failure, (reader >>= fun value => (failHere (cause value) : Reader β)).run s = .error failure := by
  rw [run_bind]
  split
  · exact ⟨_, rfl⟩
  · exact ⟨_, rfl⟩

section scalars

variable {s r : Bytes}

theorem foundBehind_null : (foundBehind (byte 'n')).run (bytes "ull" ++ r) = .ok (.null, r) := by
  rw [foundBehind, if_pos rfl, run_bind_ok (run_word _ _), run_pure]

theorem foundBehind_true : (foundBehind (byte 't')).run (bytes "rue" ++ r) = .ok (.boolean true, r) := by
  rw [foundBehind, if_neg (by decide), if_pos rfl, run_bind_ok (run_word _ _), run_pure]

theorem foundBehind_false : (foundBehind (byte 'f')).run (bytes "alse" ++ r) = .ok (.boolean false, r) := by
  rw [foundBehind, if_neg (by decide), if_neg (by decide), if_pos rfl, run_bind_ok (run_word _ _), run_pure]

theorem foundBehind_quote {text : String} (read : openString.run s = .ok (text, r)) :
    (foundBehind quote).run s = .ok (.string text, r) := by
  rw [foundBehind, if_neg (by decide), if_neg (by decide), if_neg (by decide), if_neg (by decide),
    if_neg (by decide), if_pos rfl, run_bind_ok read, run_pure]

/-- A value without brackets is read to be told, and refused behind it. -/
theorem run_wrongKind {b : UInt8} {found : Found} (noList : b ≠ openBracket) (noObject : b ≠ openBrace)
    (read : (foundBehind b).run s = .ok (found, r)) (expected : Expected) :
    (wrongKind b expected : Reader α).run (b :: s) = .error ⟨.wrongKind found expected, r.length, []⟩ := by
  rw [wrongKind, if_neg noList, if_neg noObject, run_bind_ok (run_advance _ _), run_bind_ok read, run_failHere]

end scalars

/-- A value of another kind than the expected one is refused for what it is. -/
theorem Spells.meets_wrongKind {v : Value} {b : UInt8} {t r : Bytes} (spelled : Spells v (b :: t) r)
    (leads : v.Leads b) (expected : Expected) :
    Meets r ((wrongKind b expected : Reader α).run (b :: t)) (.error (v.misfit expected)) := by
  cases v with
  | null =>
    cases spelled.null_eq
    rw [run_wrongKind (by decide) (by decide) foundBehind_null]
    exact .refused _ _ _
  | boolean value =>
    cases value
    · cases spelled.false_eq
      rw [run_wrongKind (by decide) (by decide) foundBehind_false]
      exact .refused _ _ _
    · cases spelled.true_eq
      rw [run_wrongKind (by decide) (by decide) foundBehind_true]
      exact .refused _ _ _
  | string text =>
    cases spelled with
    | string chars =>
      rw [run_wrongKind (by decide) (by decide) (foundBehind_quote chars.run_openString), String.ofList_toList]
      exact .refused _ _ _
  | number n =>
    have noBracket : b ≠ openBracket ∧ b ≠ openBrace := by
      constructor <;> rintro rfl <;> rcases leads with leads | leads <;> cases leads
    rw [wrongKind, if_neg noBracket.1, if_neg noBracket.2, run_bind_ok (run_advance _ _)]
    -- The number is read to be told, which may fail by itself; either way it is refused.
    obtain ⟨failure, failed⟩ := run_bind_failHere (foundBehind b) (.wrongKind · expected) t (β := α)
    rw [failed]
    exact .open_ _
  | list elements =>
    cases leads
    exact .refused _ _ _
  | object members =>
    cases leads
    exact .refused _ _ _

/-- What a string is read of. -/
def Value.asString : Value → Outcome String
  | .string text => .ok text
  | v => .error (v.misfit .string)

theorem Value.asString_eq_misfit {v : Value} {b : UInt8} (leads : v.Leads b) (other : b ≠ quote) :
    v.asString = .error (v.misfit .string) := by
  cases v with
  | string => exact absurd leads other
  | _ => rfl

/-- **A string is read of each of its spellings**, and of nothing else. -/
theorem string_follows : string.Follows Value.asString := by
  intro v s t r before spelled
  obtain ⟨b, t, rfl, leads⟩ := spelled.leads
  rw [string, run_bind_ok (before.run_peekToken leads.visible)]
  dsimp only
  by_cases isString : b = quote
  · subst isString
    obtain ⟨text, rfl⟩ := leads.eq_string
    cases spelled with
    | string chars =>
      rw [if_pos rfl, run_bind_ok (run_advance _ _), chars.run_openString, String.ofList_toList]
      exact .read text
  · rw [if_neg isString, Value.asString_eq_misfit leads isString]
    exact spelled.meets_wrongKind leads .string

/-- What an optional value is read of: `null` stands for none. -/
def Value.asOptional (f : Value → Outcome α) : Value → Outcome (Option α)
  | .null => .ok none
  | v => f v >>= fun value => pure (some value)

theorem Reader.Follows.optional {reader : Reader α} {f : Value → Outcome α} (follows : reader.Follows f) :
    (Json.optional reader).Follows (Value.asOptional f) := by
  intro v s t r before spelled
  obtain ⟨b, t, rfl, leads⟩ := spelled.leads
  rw [Json.optional, run_bind_ok (before.run_peekToken leads.visible)]
  by_cases isNull : b = byte 'n'
  · subst isNull
    cases leads.eq_null
    cases spelled.null_eq
    rw [if_pos rfl, run_bind_ok (run_advance _ _), run_bind_ok (run_word _ _), run_pure]
    exact .read none
  · have some_ : Value.asOptional f v = f v >>= fun value => pure (some value) := by
      cases v with
      | null => exact absurd leads isNull
      | _ => rfl
    rw [if_neg (by simpa using isNull), some_]
    exact follows.bind_pure some (.none _) spelled

section whole

variable {reader : Reader α} {f : Value → Outcome α} {v : Value} {text : Bytes}

/-- A text holds what its value is read as. -/
theorem Reader.Follows.whole (follows : reader.Follows f) (writes : Writes v text) :
    Meets [] ((Json.whole reader text).map fun value => (value, [])) (f v) := by
  obtain ⟨s, r, before, spelled, behind⟩ := writes
  have meets := follows before spelled
  unfold Json.whole
  rw [run_eq] at meets
  cases result : reader text with
  | error failure =>
    rw [result] at meets
    generalize outcome : f v = o at meets
    cases meets with
    | refused => exact .refused _ _ _
    | open_ => exact .open_ _
  | ok pair =>
    obtain ⟨value, rest, bound⟩ := pair
    rw [result] at meets
    generalize outcome : f v = o at meets
    cases meets
    simp only [behind.dropWhile_eq_nil]
    exact .read value

/-- A text holds a value if and only if its JSON value is read as that. -/
theorem Reader.Follows.whole_eq_ok_iff (follows : reader.Follows f) (writes : Writes v text) {value : α} :
    Json.whole reader text = .ok value ↔ f v = .ok value := by
  have meets := follows.whole writes
  generalize f v = outcome at meets ⊢
  generalize Json.whole reader text = result at meets ⊢
  cases result <;> cases meets <;> simp

/-- A text whose JSON value is refused is refused in the same words, at the same place of the value. -/
theorem Reader.Follows.whole_eq_error (follows : reader.Follows f) (writes : Writes v text) {refusal : Refusal}
    (refused : f v = .error (some refusal)) :
    ∃ unread, Json.whole reader text = .error ⟨refusal.cause, unread, refusal.path⟩ := by
  have meets := follows.whole writes
  rw [refused] at meets
  generalize Json.whole reader text = result at meets ⊢
  cases result with
  | error failure =>
    cases meets
    exact ⟨_, rfl⟩
  | ok value => cases meets

end whole

end SchemaTypes.Json
