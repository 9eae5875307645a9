import SchemaTypes.Proofs.Json.Numbers

/-!
# Skipping values

A value of any shape and any depth is skipped over each of its spellings, and nothing behind it is. One lemma
says what each turn of the loop does; from these the spelling of a value leads the loop from the front of the
value to the text behind it, with the same brackets open.
-/

namespace SchemaTypes.Json
set_option autoImplicit false

open Ascii Reader

/-- The bytes that a value may begin with. -/
def Value.Leads : Value → UInt8 → Prop
  | .null, b => b = byte 'n'
  | .boolean value, b => b = byte (if value then 't' else 'f')
  | .number _, b => b = minus ∨ isDigit b = true
  | .string _, b => b = quote
  | .list _, b => b = openBracket
  | .object _, b => b = openBrace

/-- No value begins with a blank, with a comma or with the end of a list. -/
theorem Value.Leads.ne {v : Value} {b c : UInt8} (leads : v.Leads b)
    (stop : c ∈ [space, lineFeed, tab, carriageReturn, comma, closeBracket]) : b ≠ c := by
  rintro rfl
  simp only [List.mem_cons, List.not_mem_nil, or_false] at stop
  cases v with
  | boolean value => cases value <;> rcases stop with rfl | rfl | rfl | rfl | rfl | rfl <;> cases leads
  | number n => rcases stop with rfl | rfl | rfl | rfl | rfl | rfl <;> rcases leads with leads | leads <;> cases leads
  | _ => rcases stop with rfl | rfl | rfl | rfl | rfl | rfl <;> cases leads

theorem Value.Leads.visible {v : Value} {b : UInt8} (leads : v.Leads b) : isBlank b = false := by
  simp [isBlank, leads.ne (c := space), leads.ne (c := lineFeed), leads.ne (c := tab), leads.ne (c := carriageReturn)]

theorem Spells.leads {v : Value} {s r : Bytes} (spelled : Spells v s r) :
    ∃ b t, s = b :: t ∧ v.Leads b := by
  cases spelled with
  | boolean value => cases value <;> exact ⟨_, _, rfl, rfl⟩
  | number ends =>
    obtain ⟨first, behind, text, form⟩ := skip_literal _ ends
    exact ⟨first, behind, text, form.imp And.left And.left⟩
  | _ => exact ⟨_, _, rfl, rfl⟩

/-- A skip comes from one phase, with some brackets open and some text left, to another. -/
def Reaches (phase : Phase) (stack : List Bracket) (s : Bytes) (phase' : Phase) (stack' : List Bracket)
    (s' : Bytes) : Prop :=
  ∀ (n : Nat) (bound : s.length ≤ n), ∃ bound' : s'.length ≤ n,
    skipOpen phase stack s bound = skipOpen phase' stack' s' bound'

section turns

variable {phase phase' phase'' : Phase} {stack stack' stack'' : List Bracket} {s s' s'' r t : Bytes} {b : UInt8}
  {bracket : Bracket}

theorem Reaches.trans (first : Reaches phase stack s phase' stack' s')
    (second : Reaches phase' stack' s' phase'' stack'' s'') : Reaches phase stack s phase'' stack'' s'' := by
  intro n bound
  obtain ⟨bound', same⟩ := first n bound
  obtain ⟨bound'', same'⟩ := second n bound'
  exact ⟨bound'', same.trans same'⟩

/-- A value without brackets is skipped. -/
theorem reaches_behind (blanks : Blanks s (b :: t)) (visible : isBlank b = false)
    (skipped : (skipBehind b).run t = .ok (none, r)) : Reaches .value stack s .behind stack r := by
  intro n bound
  obtain ⟨within, skipped⟩ := run_eq_ok skipped
  have front := blanks.dropWhile_eq visible
  have shorter := length_behind front
  refine ⟨by omega, ?_⟩
  rw [skipOpen.eq_def]
  dsimp only
  split
  · next behind => cases front.symm.trans behind
  · next behind =>
    cases front.symm.trans behind
    rw [skipped]

/-- A value with a bracket is entered. -/
theorem reaches_opened (blanks : Blanks s (b :: t)) (visible : isBlank b = false)
    (skipped : (skipBehind b).run t = .ok (some bracket, r)) : Reaches .value stack s (.opened bracket) stack r := by
  intro n bound
  obtain ⟨within, skipped⟩ := run_eq_ok skipped
  have front := blanks.dropWhile_eq visible
  have shorter := length_behind front
  refine ⟨by omega, ?_⟩
  rw [skipOpen.eq_def]
  dsimp only
  split
  · next behind => cases front.symm.trans behind
  · next behind =>
    cases front.symm.trans behind
    rw [skipped]

theorem Bracket.closing_visible (bracket : Bracket) : isBlank bracket.closing = false := by
  cases bracket <;> rfl

/-- A bracket with nothing in it is closed. -/
theorem reaches_behind_empty (blanks : Blanks s (bracket.closing :: r)) :
    Reaches (.opened bracket) stack s .behind stack r := by
  intro n bound
  have front := blanks.dropWhile_eq bracket.closing_visible
  have shorter := length_behind front
  refine ⟨by omega, ?_⟩
  rw [skipOpen.eq_def]
  dsimp only
  split
  · next behind => cases front.symm.trans behind
  · next behind =>
    cases front.symm.trans behind
    rw [if_pos rfl]

/-- A bracket with something in it goes on at its first entry. -/
theorem reaches_first (blanks : Blanks s (b :: t)) (visible : isBlank b = false) (open_ : b ≠ bracket.closing)
    (key : (skipKey bracket).run (b :: t) = .ok ((), r)) :
    Reaches (.opened bracket) stack s .value (bracket :: stack) r := by
  intro n bound
  obtain ⟨within, key⟩ := run_eq_ok key
  have front := blanks.dropWhile_eq visible
  have within' := length_key_le (length_behind front) within
  refine ⟨by omega, ?_⟩
  rw [skipOpen.eq_def]
  dsimp only
  split
  · next behind => cases front.symm.trans behind
  · next behind =>
    cases front.symm.trans behind
    rw [if_neg open_, key]

/-- Behind a comma stands the next entry. -/
theorem reaches_next (blanks : Blanks s (comma :: t)) (key : (skipKey bracket).run t = .ok ((), r)) :
    Reaches .behind (bracket :: stack) s .value (bracket :: stack) r := by
  intro n bound
  obtain ⟨within, key⟩ := run_eq_ok key
  have front := blanks.dropWhile_eq rfl
  have shorter := length_behind front
  refine ⟨by omega, ?_⟩
  rw [skipOpen.eq_def]
  dsimp only
  split
  · next behind => cases front.symm.trans behind
  · next behind =>
    cases front.symm.trans behind
    rw [if_pos rfl, key]

/-- Behind the last entry the bracket is closed. -/
theorem reaches_behind_last (blanks : Blanks s (bracket.closing :: r)) :
    Reaches .behind (bracket :: stack) s .behind stack r := by
  intro n bound
  have front := blanks.dropWhile_eq bracket.closing_visible
  have shorter := length_behind front
  have noComma : bracket.closing ≠ comma := by cases bracket <;> decide
  refine ⟨by omega, ?_⟩
  rw [skipOpen.eq_def]
  dsimp only
  split
  · next behind => cases front.symm.trans behind
  · next behind =>
    cases front.symm.trans behind
    rw [if_neg noComma, if_pos rfl]

end turns

section scalars

variable {s r : Bytes} {b : UInt8}

theorem skipBehind_null : (skipBehind (byte 'n')).run (bytes "ull" ++ r) = .ok (none, r) := by
  rw [skipBehind, if_pos rfl, run_bind_ok (run_word _ _), run_pure]

theorem skipBehind_true : (skipBehind (byte 't')).run (bytes "rue" ++ r) = .ok (none, r) := by
  rw [skipBehind, if_neg (by decide), if_pos rfl, run_bind_ok (run_word _ _), run_pure]

theorem skipBehind_false : (skipBehind (byte 'f')).run (bytes "alse" ++ r) = .ok (none, r) := by
  rw [skipBehind, if_neg (by decide), if_neg (by decide), if_pos rfl, run_bind_ok (run_word _ _), run_pure]

theorem skipBehind_minus (skipped : skipNegativeNumeral.run s = .ok ((), r)) :
    (skipBehind minus).run s = .ok (none, r) := by
  rw [skipBehind, if_neg (by decide), if_neg (by decide), if_neg (by decide), if_pos rfl, run_bind_ok skipped,
    run_pure]

theorem skipBehind_digit (digit : isDigit b = true) (skipped : (skipNumeralBehind b).run s = .ok ((), r)) :
    (skipBehind b).run s = .ok (none, r) := by
  have other (c : UInt8) (noDigit : isDigit c = false) : b ≠ c := by
    rintro rfl
    cases digit.symm.trans noDigit
  rw [skipBehind, if_neg (other _ rfl), if_neg (other _ rfl), if_neg (other _ rfl), if_neg (other _ rfl),
    if_pos digit, run_bind_ok skipped, run_pure]

theorem skipBehind_quote (skipped : skipString.run s = .ok ((), r)) : (skipBehind quote).run s = .ok (none, r) := by
  rw [skipBehind, if_neg (by decide), if_neg (by decide), if_neg (by decide), if_neg (by decide),
    if_neg (by decide), if_pos rfl, run_bind_ok skipped, run_pure]

theorem skipBehind_openBracket : (skipBehind openBracket).run s = .ok (some .list, s) := rfl

theorem skipBehind_openBrace : (skipBehind openBrace).run s = .ok (some .object, s) := rfl

end scalars

/-- The key of a member and its colon are skipped, up to the value. -/
theorem SpellsChars.run_skipKey {cs : List Char} {s t u w : Bytes} (chars : SpellsChars cs t u)
    (behind : Blanks u (colon :: w)) (before : Blanks s (quote :: t)) :
    (skipKey .object).run s = .ok ((), w) := by
  rw [skipKey, run_bind_ok (before.run_peekToken rfl)]
  simp only [if_true]
  rw [run_bind_ok (run_advance _ _), run_bind_ok chars.run_skipString, run_bind_ok (behind.run_peekToken rfl)]
  simp only [if_true, run_advance]

mutual

/-- **A value is skipped over each of its spellings**, and the blanks in front of it. -/
theorem Spells.reaches {v : Value} {s t r : Bytes} :
    Spells v t r → Blanks s t → ∀ stack, Reaches .value stack s .behind stack r
  | .null _, before, _ => reaches_behind before rfl skipBehind_null
  | .boolean true _, before, _ => reaches_behind before rfl skipBehind_true
  | .boolean false _, before, _ => reaches_behind before rfl skipBehind_false
  | .number (n := n) ends, before, _ => by
    obtain ⟨first, behind, text, ⟨rfl, skipped⟩ | ⟨digit, skipped⟩⟩ := skip_literal n ends
    · exact reaches_behind (text ▸ before) rfl (skipBehind_minus skipped)
    · have leads : (Value.number n).Leads first := .inr digit
      exact reaches_behind (text ▸ before) leads.visible (skipBehind_digit digit skipped)
  | .string chars, before, _ => reaches_behind before rfl (skipBehind_quote chars.run_skipString)
  | .emptyList blanks, before, _ =>
    (reaches_opened before rfl skipBehind_openBracket).trans (reaches_behind_empty blanks)
  | .list elements, before, stack => by
    obtain ⟨b, t, front, visible, noClose, behind⟩ := elements.reaches stack
    exact (reaches_opened before rfl skipBehind_openBracket).trans
      ((reaches_first front visible noClose rfl).trans (behind (.none _)))
  | .emptyObject blanks, before, _ =>
    (reaches_opened before rfl skipBehind_openBrace).trans (reaches_behind_empty blanks)
  | .object members, before, stack => by
    obtain ⟨t, u, front, key, behind⟩ := members.reaches stack
    exact (reaches_opened before rfl skipBehind_openBrace).trans
      ((reaches_first front rfl (by decide) (key (.none _))).trans behind)

/-- The elements of a list are skipped from their first byte on, and the bracket that closes the list. -/
theorem SpellsElements.reaches {vs : List Value} {s r : Bytes} :
    SpellsElements vs s r → ∀ stack, ∃ b t, Blanks s (b :: t) ∧ isBlank b = false ∧ b ≠ Bracket.list.closing ∧
      ∀ {s'}, Blanks s' (b :: t) → Reaches .value (.list :: stack) s' .behind stack r
  | .last before value behind, stack => by
    obtain ⟨b, t, rfl, leads⟩ := value.leads
    refine ⟨b, t, before, leads.visible, leads.ne (by decide), fun blanks => ?_⟩
    exact (value.reaches blanks _).trans (reaches_behind_last behind)
  | .more before value behind more, stack => by
    obtain ⟨b, t, rfl, leads⟩ := value.leads
    obtain ⟨_, _, front, _, _, rest⟩ := more.reaches stack
    refine ⟨b, t, before, leads.visible, leads.ne (by decide), fun blanks => ?_⟩
    exact (value.reaches blanks _).trans ((reaches_next behind rfl).trans (rest front))

/-- The members of an object are skipped from their first key on, and the brace that closes the object. -/
theorem SpellsMembers.reaches {members : List (String × Value)} {s r : Bytes} :
    SpellsMembers members s r → ∀ stack, ∃ t u, Blanks s (quote :: t) ∧
      (∀ {s'}, Blanks s' (quote :: t) → (skipKey .object).run s' = .ok ((), u)) ∧
      Reaches .value (.object :: stack) u .behind stack r
  | .last before (.intro chars noted apart value) behind, stack => by
    refine ⟨_, _, before, chars.run_skipKey noted, ?_⟩
    exact (value.reaches apart _).trans (reaches_behind_last behind)
  | .more before (.intro chars noted apart value) behind more, stack => by
    obtain ⟨_, _, front, key, rest⟩ := more.reaches stack
    refine ⟨_, _, before, chars.run_skipKey noted, ?_⟩
    exact (value.reaches apart _).trans ((reaches_next behind (key front)).trans rest)

end

/-- **Skipping a value leaves what stands behind it**, whatever the value and however it is spelled. -/
theorem Spells.run_skipValue {v : Value} {s t r : Bytes} (spelled : Spells v t r) (before : Blanks s t) :
    skipValue.run s = .ok ((), r) := by
  obtain ⟨bound, skipped⟩ := spelled.reaches before [] s.length (length_le_self s)
  rw [run_eq, skipValue, skipped, skipOpen, unbounded_ok]

end SchemaTypes.Json
