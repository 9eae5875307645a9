import Mathlib.Data.List.TakeWhile
import SchemaTypes.Proofs.Json.Skipping
import SchemaTypes.Proofs.Json.Yields

/-!
# Text behind a value

What follows a text makes no difference to a reader that has left something of the text: it looks at most at the byte
behind what it takes. This passes through the combinators, and through the loops over strings and over values that
are skipped.
-/

namespace SchemaTypes.Json
set_option autoImplicit false

open Ascii Reader

variable {α β : Type}

namespace Reader

/-- What follows a text makes no difference to the reader if it leaves something of the text. -/
def Settled (reader : Reader α) : Prop :=
  ∀ ⦃s r : Bytes⦄ ⦃value : α⦄, reader.run s = .ok (value, r) → r ≠ [] →
    ∀ more, reader.run (s ++ more) = .ok (value, r ++ more)

/-- A reader in two parts reads with the first, and with the second what that left. -/
theorem run_bind_eq_ok {reader : Reader α} {next : α → Reader β} {s r : Bytes} {value : β}
    (read : (reader >>= next).run s = .ok (value, r)) :
    ∃ a u, reader.run s = .ok (a, u) ∧ (next a).run u = .ok (value, r) := by
  rw [run_bind] at read
  split at read
  · cases read
  · next a u first => exact ⟨a, u, first, read⟩

theorem run_of_eq {reader : Reader α} {s : Bytes} {value : α} {rest : Rest s} (read : reader s = .ok (value, rest)) :
    reader.run s = .ok (value, rest.val) := by
  rw [run_eq, read, unbounded_ok]

theorem run_peekToken (s : Bytes) : peekToken.run s = .ok ((s.dropWhile isBlank).head?, s.dropWhile isBlank) := rfl

/-- Something is left only of something. -/
theorem ne_nil_of_left {reader : Reader α} {s r : Bytes} {value : α} (read : reader.run s = .ok (value, r))
    (left : r ≠ []) : s ≠ [] := by
  rintro rfl
  obtain ⟨bound, -⟩ := run_eq_ok read
  exact left (List.eq_nil_of_length_eq_zero (Nat.le_zero.1 bound))

/-- A reader that reads nothing has no value. -/
theorem Yields.not_read {reader : Reader α} {s r : Bytes} {value : α} (refuses : reader.Yields fun _ => False)
    (read : reader.run s = .ok (value, r)) : False := by
  obtain ⟨_, read⟩ := run_eq_ok read
  exact refuses _ _ _ read

end Reader

/-- The blanks at the front end where they are dropped. -/
theorem blanks_of_dropWhile {s r : Bytes} {b : UInt8} (behind : s.dropWhile isBlank = b :: r) :
    Blanks s (b :: r) ∧ isBlank b = false := by
  induction s with
  | nil => cases behind
  | cons c s ih =>
    rw [List.dropWhile_cons] at behind
    split at behind
    · next blank =>
      obtain ⟨blanks, visible⟩ := ih behind
      exact ⟨.blank blank blanks, visible⟩
    · next visible =>
      cases behind
      exact ⟨.none _, Bool.eq_false_iff.2 visible⟩

theorem Blanks.append_right {s t : Bytes} (blanks : Blanks s t) (more : Bytes) : Blanks (s ++ more) (t ++ more) := by
  induction blanks with
  | none => exact .none _
  | blank blank _ ih => exact .blank blank ih

namespace Reader.Settled

variable {reader : Reader α} {further : α → Reader β}

theorem refused (refuses : reader.Yields fun _ => False) : reader.Settled :=
  fun _ _ _ read => (refuses.not_read read).elim

theorem pure (value : α) : (Pure.pure value : Reader α).Settled := by
  intro s r _ read _ more
  cases read
  rfl

theorem failHere (cause : Cause) : (Reader.failHere cause : Reader α).Settled :=
  refused (.failHere cause)

theorem failAtNext (cause : Cause) : (Reader.failAtNext cause : Reader α).Settled :=
  refused (.failAtNext cause)

theorem bind (first : reader.Settled) (then_ : ∀ value, (further value).Settled) : (reader >>= further).Settled := by
  intro s r value read left more
  obtain ⟨a, u, read, read'⟩ := run_bind_eq_ok read
  rw [run_bind_ok (first read (ne_nil_of_left read' left) more)]
  exact then_ a read' left more

/-- A reader goes on at the byte that is found, or else fails. -/
theorem found {reader : Reader (Option UInt8)} {further : Option UInt8 → Reader β} (first : reader.Settled)
    (ends : (further none).Yields fun _ => False) (goes : ∀ b, (further (some b)).Settled) :
    (reader >>= further).Settled := by
  refine first.bind fun found => ?_
  cases found with
  | none => exact refused ends
  | some b => exact goes b

theorem ite {p : Prop} [Decidable p] {yes no : Reader α} (first : yes.Settled) (second : no.Settled) :
    (if p then yes else no).Settled := by
  split
  · exact first
  · exact second

theorem within (step : Step) (settled : reader.Settled) : (Reader.within step reader).Settled := by
  intro s r value read left more
  rw [run_within] at read ⊢
  split at read
  · cases read
  · next result read' =>
    cases read
    rw [settled read' left more]

theorem peek : Reader.peek.Settled := by
  intro s r value read left more
  cases read
  rw [run_peek, List.head?_append_of_ne_nil _ left]

theorem next : Reader.next.Settled := by
  intro s r value read left more
  cases s with
  | nil =>
    cases read
    exact absurd rfl left
  | cons b s =>
    cases read
    rfl

theorem advance : Reader.advance.Settled :=
  next.bind fun _ => pure ()

theorem takeWhile (p : UInt8 → Bool) : (Reader.takeWhile p).Settled := by
  intro s r value read left more
  rw [run_takeWhile] at read
  cases read
  -- The run ends within the text, in front of what is left.
  have stops : ¬(s.dropWhile p).isEmpty = true := by simpa using left
  have shorter : (s.takeWhile p).length ≠ s.length := fun same => by
    have whole := List.takeWhile_append_dropWhile (p := p) (l := s)
    have lengths := congrArg List.length whole
    rw [List.length_append, same] at lengths
    exact left (List.eq_nil_of_length_eq_zero (by omega))
  rw [run_takeWhile, List.dropWhile_append, if_neg stops, List.takeWhile_append, if_neg shorter]

theorem peekToken : Reader.peekToken.Settled :=
  (takeWhile _).bind fun _ => peek

theorem word (w : Bytes) : (Reader.word w).Settled := by
  induction w with
  | nil => exact pure ()
  | cons b more ih => exact next.found (.failHere _) fun _ => ite ih (failHere _)

end Reader.Settled

section strings

theorem settled_hexQuad : hexQuad.Settled := by
  intro s r value read left more
  rcases s with _ | ⟨a, _ | ⟨b, _ | ⟨c, _ | ⟨d, s⟩⟩⟩⟩
  · cases read
  · cases read
  · cases read
  · cases read
  · simp only [List.cons_append, run_eq, hexQuad] at read ⊢
    split at read
    · cases read
      rfl
    · cases read

theorem settled_expectInPair (b : UInt8) : (expectInPair b).Settled :=
  Settled.next.found (.failHere _) fun _ => .ite (.pure ()) (.failHere _)

theorem settled_unitEscape : unitEscape.Settled := by
  refine settled_hexQuad.bind fun unit => .ite (.failHere _) (.ite (.pure _) ?_)
  refine (settled_expectInPair _).bind fun _ => (settled_expectInPair _).bind fun _ => ?_
  exact settled_hexQuad.bind fun second => .ite (.failHere _) (.pure _)

theorem settled_escape : escape.Settled := by
  refine Settled.next.found (.failHere _) fun b => ?_
  dsimp only
  split
  · exact .pure _
  · exact .ite settled_unitEscape (.failHere _)

theorem settled_skipEscape : skipEscape.Settled := by
  refine Settled.next.found (.failHere _) fun b => .ite (.pure ()) ?_
  exact .ite (settled_hexQuad.bind fun _ => .pure ()) (.failHere _)

/-- A text with more behind it begins with the same run of bytes of a class. -/
theorem split_run {p : UInt8 → Bool} {s r : Bytes} {b : UInt8} (behind : s.dropWhile p = b :: r) (more : Bytes) :
    (∀ b ∈ s.takeWhile p, p b = true) ∧ s ++ more = s.takeWhile p ++ b :: (r ++ more) := by
  refine ⟨fun _ => List.mem_takeWhile_imp, ?_⟩
  rw [← List.cons_append, ← behind, ← List.append_assoc, List.takeWhile_append_dropWhile]

/-- The content of a string does not depend on what follows its closing quote. -/
theorem contentOnto_append {n m : Nat} {before s more content : Bytes} {bound : s.length ≤ n} {rest : UpTo n}
    (read : contentOnto before s bound = .ok (content, rest)) (left : rest.val ≠ [])
    (bound' : (s ++ more).length ≤ m) :
    unbounded (contentOnto before (s ++ more) bound') = .ok (content, rest.val ++ more) := by
  fun_induction contentOnto before s bound with
  | case2 before s bound r sofar behind =>
    simp only [Except.ok.injEq, Prod.mk.injEq] at read
    obtain ⟨same, rfl⟩ := read
    obtain ⟨plain, front⟩ := split_run behind more
    generalize s ++ more = text at front bound' ⊢
    subst front
    rw [contentOnto_quote plain bound', ← List.reverseAux_eq, ← same]
  | case4 before s bound r sofar c r' within escaped behind _ _ ih =>
    obtain ⟨plain, front⟩ := split_run behind more
    -- At the end of the text the loop would have failed.
    have some_left : r' ≠ [] := by
      rintro rfl
      rw [contentOnto] at read
      cases read
    have escaped' := settled_escape (run_of_eq escaped) some_left more
    generalize s ++ more = text at front bound' ⊢
    subst front
    rw [contentOnto_escape plain escaped' bound', ← List.reverseAux_eq, ← List.reverseAux_eq]
    exact ih read _
  | _ => cases read

theorem settled_openString : openString.Settled := by
  intro s r value read left more
  rw [run_eq, openString] at read ⊢
  split at read
  · cases read
  · next content rest content_read =>
    split at read
    · cases read
    · next decoded =>
      cases read
      have again := contentOnto_append content_read left (length_le_self (s ++ more))
      cases whole : contentOnto [] (s ++ more) (length_le_self (s ++ more)) with
      | error failure =>
        rw [whole] at again
        cases again
      | ok pair =>
        rw [whole] at again
        obtain ⟨same, behind⟩ := Prod.mk.inj (Except.ok.inj again)
        simp only [same, decoded, unbounded_ok, behind]

theorem skipChars_append {n m : Nat} {s more : Bytes} {bound : s.length ≤ n} {rest : UpTo n}
    (read : skipChars s bound = .ok ((), rest)) (left : rest.val ≠ []) (bound' : (s ++ more).length ≤ m) :
    unbounded (skipChars (s ++ more) bound') = .ok ((), rest.val ++ more) := by
  fun_induction skipChars s bound with
  | case2 s bound r behind =>
    cases read
    obtain ⟨plain, front⟩ := split_run behind more
    generalize s ++ more = text at front bound' ⊢
    subst front
    exact skipChars_quote plain bound'
  | case4 s bound r _ r' within escaped behind _ _ ih =>
    obtain ⟨plain, front⟩ := split_run behind more
    have some_left : r' ≠ [] := by
      rintro rfl
      rw [skipChars] at read
      cases read
    have escaped' := settled_skipEscape (run_of_eq escaped) some_left more
    generalize s ++ more = text at front bound' ⊢
    subst front
    rw [skipChars_escape plain escaped' bound']
    exact ih read _
  | _ => cases read

theorem settled_skipString : skipString.Settled := by
  intro s r value read left more
  obtain ⟨_, read⟩ := run_eq_ok read
  rw [run_eq, skipString]
  exact skipChars_append read left _

end strings

section numbers

theorem settled_digits : digits.Settled :=
  (Settled.takeWhile _).bind fun _ => .pure _

theorem settled_skipExponent : skipExponent.Settled := by
  refine Settled.advance.bind fun _ => Settled.peek.bind fun sign => ?_
  extract_lets rest
  have behindSign (u : Unit) : (rest u).Settled := by
    refine Settled.next.found (.failHere _) fun first => ?_
    exact .ite (settled_digits.bind fun _ => .pure _) (.failHere _)
  exact .ite (Settled.advance.bind behindSign) (behindSign ())

theorem settled_skipExponentIfAny : skipExponentIfAny.Settled :=
  Settled.peek.bind fun _ => .ite settled_skipExponent (.pure _)

theorem settled_skipNumeralBehind (first : UInt8) : (skipNumeralBehind first).Settled := by
  unfold skipNumeralBehind
  extract_lets rest
  have behindWhole (u : Unit) : (rest u).Settled := by
    refine Settled.peek.bind fun _ => .ite ?_ settled_skipExponentIfAny
    refine Settled.advance.bind fun _ => settled_digits.bind fun _ => ?_
    exact .ite (.failAtNext _) settled_skipExponentIfAny
  refine .ite (.failHere _) (.ite (Settled.peek.bind fun _ => ?_) (settled_digits.bind fun _ => behindWhole ()))
  exact .ite ((Settled.failAtNext _).bind behindWhole) (behindWhole ())

theorem settled_skipNegativeNumeral : skipNegativeNumeral.Settled :=
  Settled.next.found (.failHere _) settled_skipNumeralBehind

end numbers

section skipping

theorem settled_skipBehind (first : UInt8) : (skipBehind first).Settled := by
  have behind {reader : Reader Unit} (settled : reader.Settled) (last : Option Bracket) :
      (do reader; pure last).Settled := settled.bind fun _ => .pure last
  refine .ite (behind (.word _) _) (.ite (behind (.word _) _) (.ite (behind (.word _) _) ?_))
  refine .ite (behind settled_skipNegativeNumeral _) (.ite (behind (settled_skipNumeralBehind first) _) ?_)
  exact .ite (behind settled_skipString _) (.ite (.pure _) (.ite (.pure _) (.failHere _)))

theorem settled_skipKey (bracket : Bracket) : (skipKey bracket).Settled := by
  cases bracket with
  | list => exact .pure ()
  | object =>
    refine Settled.peekToken.found (.failAtNext _) fun b => ?_
    refine .ite (Settled.advance.bind fun _ => settled_skipString.bind fun _ => ?_) (.failAtNext _)
    exact Settled.peekToken.found (.failAtNext _) fun b => .ite .advance (.failAtNext _)

/-- A skip that has come to the end of the text leaves nothing. -/
theorem skipOpen_nil {n : Nat} {phase : Phase} {stack : List Bracket} {bound : ([] : Bytes).length ≤ n} {rest : UpTo n}
    (skipped : skipOpen phase stack [] bound = .ok ((), rest)) : rest.val = [] := by
  rw [skipOpen.eq_def] at skipped
  cases phase with
  | value => cases skipped
  | opened bracket => cases skipped
  | behind =>
    cases stack with
    | nil =>
      cases skipped
      rfl
    | cons bracket stack => cases skipped

/-- **Skipping a value does not depend on what follows it**, unless the value ends with the text. -/
theorem skipOpen_append {n m : Nat} {phase : Phase} {stack : List Bracket} {s more : Bytes} {bound : s.length ≤ n}
    {rest : UpTo n} (skipped : skipOpen phase stack s bound = .ok ((), rest)) (left : rest.val ≠ [])
    (bound' : (s ++ more).length ≤ m) :
    unbounded (skipOpen phase stack (s ++ more) bound') = .ok ((), rest.val ++ more) := by
  -- Each turn leaves something for the next one, so it can be made in front of more text.
  have some_left {phase : Phase} {stack : List Bracket} {r : Bytes} {bound : r.length ≤ n}
      (skipped : skipOpen phase stack r bound = .ok ((), rest)) : r ≠ [] := by
    rintro rfl
    exact left (skipOpen_nil skipped)
  fun_induction skipOpen phase stack s bound with
  | case3 stack s bound first r behind _ r' within passed _ ih =>
    obtain ⟨blanks, visible⟩ := blanks_of_dropWhile behind
    have again := settled_skipBehind first (run_of_eq passed) (some_left skipped) more
    have step : Reaches .value stack (s ++ more) .behind stack (r' ++ more) :=
      reaches_behind (blanks.append_right more) visible again
    obtain ⟨bound'', same⟩ := step m bound'
    rw [same]
    exact ih skipped bound''
  | case4 stack s bound first r behind _ bracket r' within passed _ ih =>
    obtain ⟨blanks, visible⟩ := blanks_of_dropWhile behind
    have again := settled_skipBehind first (run_of_eq passed) (some_left skipped) more
    have step : Reaches .value stack (s ++ more) (.opened bracket) stack (r' ++ more) :=
      reaches_opened (blanks.append_right more) visible again
    obtain ⟨bound'', same⟩ := step m bound'
    rw [same]
    exact ih skipped bound''
  | case6 stack s bound bracket r behind _ ih =>
    obtain ⟨blanks, -⟩ := blanks_of_dropWhile behind
    have step : Reaches (.opened bracket) stack (s ++ more) .behind stack (r ++ more) :=
      reaches_behind_empty (blanks.append_right more)
    obtain ⟨bound'', same⟩ := step m bound'
    rw [same]
    exact ih skipped bound''
  | case8 stack s bound bracket first r behind _ open_ _ r' within key _ ih =>
    obtain ⟨blanks, visible⟩ := blanks_of_dropWhile behind
    have again := settled_skipKey bracket (run_of_eq key) (some_left skipped) more
    have step : Reaches (.opened bracket) stack (s ++ more) .value (bracket :: stack) (r' ++ more) :=
      reaches_first (blanks.append_right more) visible open_ again
    obtain ⟨bound'', same⟩ := step m bound'
    rw [same]
    exact ih skipped bound''
  | case9 s bound =>
    cases skipped
    rw [skipOpen, unbounded_ok]
  | case12 s bound bracket stack r _ r' within key behind _ _ ih =>
    obtain ⟨blanks, -⟩ := blanks_of_dropWhile behind
    have again := settled_skipKey bracket (run_of_eq key) (some_left skipped) more
    have step : Reaches .behind (bracket :: stack) (s ++ more) .value (bracket :: stack) (r' ++ more) :=
      reaches_next (blanks.append_right more) again
    obtain ⟨bound'', same⟩ := step m bound'
    rw [same]
    exact ih skipped bound''
  | case13 s bound bracket stack r behind _ _ ih =>
    obtain ⟨blanks, -⟩ := blanks_of_dropWhile behind
    have step : Reaches .behind (bracket :: stack) (s ++ more) .behind stack (r ++ more) :=
      reaches_behind_last (blanks.append_right more)
    obtain ⟨bound'', same⟩ := step m bound'
    rw [same]
    exact ih skipped bound''
  | _ => cases skipped

theorem settled_skipValue : skipValue.Settled := by
  intro s r value read left more
  obtain ⟨_, read⟩ := run_eq_ok read
  rw [run_eq, skipValue]
  exact skipOpen_append read left _

end skipping

end SchemaTypes.Json
