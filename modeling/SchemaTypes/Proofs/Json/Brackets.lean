import SchemaTypes.Proofs.Json.Members
import SchemaTypes.Proofs.Json.Settled

/-!
# Texts that end with a bracket

A reader that ends with a bracket does not look behind it: what follows makes no difference, even if the text ends
there. This holds of the readers for objects, lists, maps and records, whose parts are settled. So what follows a
whole text is looked at only when its value has been read.
-/

namespace SchemaTypes.Json
set_option autoImplicit false

open Ascii Reader

variable {α β σ : Type}

/-- What follows the text `s` makes no difference to the reader, even if it takes all of `s`. -/
def Reader.SettledAt (reader : Reader α) (s : Bytes) : Prop :=
  ∀ ⦃r : Bytes⦄ ⦃value : α⦄, reader.run s = .ok (value, r) → ∀ more, reader.run (s ++ more) = .ok (value, r ++ more)

theorem settled_wrongKind (first : UInt8) (expected : Expected) : (wrongKind first expected : Reader α).Settled :=
  .refused (.wrongKind first expected)

theorem settled_string : string.Settled := by
  refine Settled.peekToken.found (.failAtNext _) fun first => ?_
  exact .ite (Settled.advance.bind fun _ => settled_openString) (settled_wrongKind _ _)

theorem Reader.Settled.optional {reader : Reader α} (settled : reader.Settled) : (Json.optional reader).Settled := by
  refine peekToken.bind fun found => .ite ?_ (settled.bind fun _ => .pure _)
  exact advance.bind fun _ => (word _).bind fun _ => .pure none

namespace Reader.SettledAt

variable {reader : Reader α} {further : α → Reader β} {s : Bytes}

theorem refused (refuses : reader.Yields fun _ => False) (s : Bytes) : reader.SettledAt s :=
  fun _ _ read => (refuses.not_read read).elim

theorem pure (value : α) (s : Bytes) : (Pure.pure value : Reader α).SettledAt s := by
  intro r _ read more
  cases read
  rfl

theorem ite {p : Prop} [Decidable p] {yes no : Reader α} (first : yes.SettledAt s) (second : no.SettledAt s) :
    (if p then yes else no).SettledAt s := by
  split
  · exact first
  · exact second

/-- Both parts read in front of the same text. -/
theorem bind (first : reader.SettledAt s) (then_ : ∀ value r, (further value).SettledAt r) :
    (reader >>= further).SettledAt s := by
  intro r value read more
  obtain ⟨a, u, read, read'⟩ := run_bind_eq_ok read
  rw [run_bind_ok (first read more)]
  exact then_ a u read' more

/-- A reader leaves something if the next one needs something. -/
theorem bind_of_settled (first : reader.Settled) (then_ : ∀ value r, (further value).SettledAt r)
    (needs : ∀ value, ∃ failure, (further value).run [] = .error failure) : (reader >>= further).SettledAt s := by
  intro r value read more
  obtain ⟨a, u, read, read'⟩ := run_bind_eq_ok read
  have left : u ≠ [] := by
    rintro rfl
    obtain ⟨_, failed⟩ := needs a
    cases failed.symm.trans read'
  rw [run_bind_ok (first read left more)]
  exact then_ a u read' more

/-- A byte that is there is taken, whatever follows it. -/
theorem advance (b : UInt8) (s : Bytes) : Reader.advance.SettledAt (b :: s) := by
  intro r value read more
  cases read
  rfl

/-- A reader goes on at a byte that is not blank, or else fails at the end of the text. -/
theorem token {further : Option UInt8 → Reader α} (ends : (further none).Yields fun _ => False)
    (goes : ∀ b r, (further (some b)).SettledAt (b :: r)) (s : Bytes) : (peekToken >>= further).SettledAt s := by
  intro r value read more
  rw [run_bind_ok (run_peekToken s)] at read
  cases behind : s.dropWhile isBlank with
  | nil =>
    rw [behind] at read
    exact (ends.not_read read).elim
  | cons b t =>
    obtain ⟨blanks, visible⟩ := blanks_of_dropWhile behind
    rw [behind] at read
    rw [run_bind_ok ((blanks.append_right more).run_peekToken visible)]
    exact goes b t read more

end Reader.SettledAt

theorem Reader.Settled.of_settledAt {reader : Reader α} (all : ∀ s, reader.SettledAt s) : reader.Settled :=
  fun s _ _ read _ more => all s read more

section entries

variable {accept : σ → String → Reader Unit} {value : σ → String → Reader σ}
  (accepts : ∀ state key, (accept state key).Settled) (values : ∀ state key, (value state key).Settled)

include accepts values

theorem settled_entry (state : σ) : (entry accept value state).Settled := by
  have key : (Reader.within .unknown do advance; openString).Settled :=
    .within _ (Settled.advance.bind fun _ => settled_openString)
  refine key.bind fun key => (accepts state key).bind fun _ => ?_
  refine Settled.peekToken.found (.failAtNext _) fun b => ?_
  exact .ite (Settled.advance.bind fun _ => .within _ (values state key)) (.failAtNext _)

/-- **The entries of an object end with its brace**, whatever follows it. -/
theorem entries_append {n m : Nat} {state result : σ} {s more : Bytes} {bound : s.length ≤ n} {rest : UpTo n}
    (read : entries accept value state s bound = .ok (result, rest)) (bound' : (s ++ more).length ≤ m) :
    unbounded (entries accept value state (s ++ more) bound') = .ok (result, rest.val ++ more) := by
  have left {r t : Bytes} {b : UInt8} (behind : r.dropWhile isBlank = b :: t) : r ≠ [] := by
    rintro rfl
    cases behind
  fun_induction entries accept value state s bound with
  | case3 state s bound state' r within first t behind =>
    cases read
    obtain ⟨blanks, -⟩ := blanks_of_dropWhile behind
    have again := settled_entry accepts values state (run_of_eq first) (left behind) more
    exact entries_last again (blanks.append_right more) bound'
  | case5 state s bound state' r within first t u behind _ _ behind' _ ih =>
    obtain ⟨blanks, -⟩ := blanks_of_dropWhile behind
    obtain ⟨blanks', -⟩ := blanks_of_dropWhile behind'
    have again := settled_entry accepts values state (run_of_eq first) (left behind) more
    obtain ⟨bound'', same⟩ := entries_more again (blanks.append_right more) (blanks'.append_right more) bound'
    rw [same]
    exact ih read bound''
  | _ => cases read

theorem settledAt_openObject (state : σ) (s : Bytes) : (openObject accept value state).SettledAt s := by
  refine .token (.within _ (.failAtNext _)) (fun b r => ?_) s
  refine .ite (.bind (.advance b r) fun _ => .pure state) (.ite ?_ (.refused (.within _ (.failAtNext _)) _))
  intro r' result read more
  obtain ⟨_, read⟩ := run_eq_ok read
  exact (run_eq _ _).trans (entries_append accepts values read _)

end entries

theorem settledAt_map {value : Reader α} (settled : value.Settled) (s : Bytes) : (map (some value)).SettledAt s := by
  refine .token (.failAtNext _) (fun b r => .ite (.bind (.advance b r) fun _ r => ?_) (.refused (.wrongKind _ _) _)) s
  exact settledAt_openObject (fun _ _ => .pure ()) (fun _ _ => settled.bind fun _ => .pure _) [] r

section records

variable {fields : List (FieldReader σ)}

theorem settled_refuseRepeated (sofar : Partial σ) (name : String) : (refuseRepeated fields sofar name).Settled := by
  refine .ite (Settled.peekToken.bind fun found => ?_) (.pure ())
  exact .ite (Settled.advance.bind fun _ => .failHere _) (.failHere _)

theorem settled_anotherElement (position : Nat) : (anotherElement position).Settled := by
  refine Settled.peekToken.found (.failAtNext _) fun b => ?_
  refine .ite (.pure _) (.ite (.pure _) (.ite (Settled.advance.bind fun _ => ?_) (.failAtNext _)))
  exact Settled.peekToken.found (.failAtNext _) fun b => .ite (.failAtNext _) (.pure _)

/-- The bracket that closes a list is the last byte that is looked at. -/
theorem settledAt_closeList (s : Bytes) : closeList.SettledAt s := by
  refine .token (.failAtNext _) (fun b r => .ite (.advance b r) (.refused ?_ _)) s
  exact .ite (.after fun _ => .after fun _ => .ite (.failAtNext _) (.failAtNext _)) (.failAtNext _)

variable (settled : ∀ field ∈ fields, ∀ record, (field.read record).Settled)

include settled

theorem settled_readField (sofar : Partial σ) (name : String) : (readField fields sofar name).Settled := by
  unfold readField
  split
  · exact settled_skipValue.bind fun _ => .pure _
  · next field found => exact (settled field (List.mem_of_find?_eq_some found) _).bind fun _ => .pure _

theorem settled_elements (position : Nat) (record : σ) : (elements position fields record).Settled := by
  induction fields generalizing position record with
  | nil => exact .pure record
  | cons field more ih =>
    refine (settled_anotherElement position).bind fun another => .ite ?_ (.pure record)
    refine (Settled.within _ (settled field List.mem_cons_self record)).bind fun record => ?_
    exact ih (fun field mem => settled field (List.mem_cons_of_mem _ mem)) _ record

/-- **A record ends with its brace or its bracket**, whatever follows it. -/
theorem settledAt_record (name : String) (empty : σ) (s : Bytes) : (record name (some fields) empty).SettledAt s := by
  have fromObject (r : Bytes) : (do
      let filled ← openObject (refuseRepeated fields) (readField fields) ⟨empty, []⟩
      pure filled.record : Reader σ).SettledAt r :=
    .bind (settledAt_openObject settled_refuseRepeated (settled_readField settled) _ r) fun _ _ => .pure _ _
  have fromList (r : Bytes) : (do
      let filled ← elements 0 fields empty
      closeList
      pure filled : Reader σ).SettledAt r :=
    .bind_of_settled (settled_elements settled 0 empty)
      (fun filled r => .bind (settledAt_closeList r) fun _ _ => .pure filled _) fun _ => ⟨_, rfl⟩
  refine .token (.failAtNext _) (fun b r => ?_) s
  refine .ite (.bind (.advance b r) fun _ r => fromObject r) ?_
  exact .ite (.bind (.advance b r) fun _ r => fromList r) (.refused (.wrongKind _ _) _)

end records

/-- What a whole text holds, by what is left behind the value. -/
theorem whole_eq (reader : Reader α) (text : Bytes) :
    whole reader text =
      match reader.run text with
      | .error failure => .error failure
      | .ok (value, rest) =>
        match rest.dropWhile isBlank with
        | [] => .ok value
        | _ :: more => .error ⟨.trailingCharacters, more.length, []⟩ := by
  rw [run_eq, whole]
  cases reader text with
  | error failure => rfl
  | ok pair => rfl

/-- **What follows a whole text is refused at its first byte that is not blank**, and else makes no difference. -/
theorem whole_append {reader : Reader α} (closed : ∀ s, reader.SettledAt s) {text : Bytes} {value : α}
    (read : whole reader text = .ok value) (behind : Bytes) :
    whole reader (text ++ behind) =
      match behind.dropWhile isBlank with
      | [] => .ok value
      | _ :: more => .error ⟨.trailingCharacters, more.length, []⟩ := by
  rw [whole_eq] at read ⊢
  split at read
  · cases read
  · next found rest first =>
    split at read
    · next blank =>
      cases read
      rw [closed text first behind]
      simp only [List.dropWhile_append, blank, List.isEmpty_nil, if_true]
    · cases read

end SchemaTypes.Json
