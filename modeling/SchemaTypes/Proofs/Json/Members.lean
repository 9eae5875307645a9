import SchemaTypes.Proofs.Json.Outcome

/-!
# What is read of the members of an object

The members of an object are taken one after the other into what has been read before them, so what an object is
read as is a fold over its members. A map assigns each of them.
-/

namespace SchemaTypes.Json
set_option autoImplicit false

open Ascii Reader

variable {α σ : Type}

section entries

variable {accept : σ → String → Reader Unit} {value : σ → String → Reader σ} {step : σ → String × Value → Outcome σ}

/-- What one entry does to what has been read, from the quote of its key on. -/
def EntryFollows (accept : σ → String → Reader Unit) (value : σ → String → Reader σ)
    (step : σ → String × Value → Outcome σ) : Prop :=
  ∀ ⦃state : σ⦄ ⦃member : String × Value⦄ ⦃s r : Bytes⦄, SpellsMember member s r →
    Meets r ((entry accept value state).run (quote :: s)) (step state member)

section turns

variable {n : Nat} {state state' : σ} {s u r : Bytes} {failure : Failure}

theorem entries_error (failed : (entry accept value state).run s = .error failure) (bound : s.length ≤ n) :
    Json.entries accept value state s bound = .error failure := by
  rw [Json.entries]
  rw [run_eq] at failed
  split
  · next failed' =>
    rw [failed'] at failed
    cases failed
    rfl
  · next read =>
    rw [read] at failed
    cases failed

/-- Behind the last entry the brace is taken. -/
theorem entries_last (read : (entry accept value state).run s = .ok (state', u))
    (behind : Blanks u (closeBrace :: r)) (bound : s.length ≤ n) :
    unbounded (Json.entries accept value state s bound) = .ok (state', r) := by
  obtain ⟨_, read⟩ := run_eq_ok read
  have front := behind.dropWhile_eq rfl
  rw [Json.entries, read]
  dsimp only
  split
  · next behind => cases front.symm.trans behind
  · next behind =>
    cases front.symm.trans behind
    rw [if_pos rfl, unbounded_ok]

/-- Behind a comma the next entry is read onto the ones before. -/
theorem entries_more {t w : Bytes} (read : (entry accept value state).run s = .ok (state', u))
    (behind : Blanks u (comma :: w)) (before : Blanks w (quote :: t)) (bound : s.length ≤ n) :
    ∃ bound' : (quote :: t).length ≤ n,
      Json.entries accept value state s bound = Json.entries accept value state' (quote :: t) bound' := by
  obtain ⟨within, read⟩ := run_eq_ok read
  have front := behind.dropWhile_eq rfl
  have front' := before.dropWhile_eq rfl
  have shorter := length_behind front
  have shorter' := length_behind front'
  refine ⟨by simp only [List.length_cons]; omega, ?_⟩
  rw [Json.entries, read]
  dsimp only
  split
  · next behind => cases front.symm.trans behind
  · next behind =>
    cases front.symm.trans behind
    rw [if_neg (by decide), if_pos rfl]
    split
    · next behind => cases front'.symm.trans behind
    · next behind =>
      cases front'.symm.trans behind
      rw [if_pos rfl]

/-- Entries go on behind the first one as that comes out. -/
theorem Meets.entries {outcome : Outcome σ} {further : σ → Outcome σ} {bound : s.length ≤ n}
    (first : Meets u ((entry accept value state).run s) outcome)
    (go : ∀ state', (entry accept value state).run s = .ok (state', u) →
      Meets r (unbounded (Json.entries accept value state s bound)) (further state')) :
    Meets r (unbounded (Json.entries accept value state s bound)) (outcome >>= further) := by
  generalize result : (entry accept value state).run s = read at first
  cases first with
  | read state' => exact go state' result
  | refused =>
    rw [entries_error result]
    exact .refused _ _ _
  | open_ =>
    rw [entries_error result]
    exact .open_ _

end turns

/-- The entries of an object are read from the first quote on, one after the other. -/
theorem EntryFollows.entries (follows : EntryFollows accept value step) {members : List (String × Value)}
    {s r : Bytes} (spelled : SpellsMembers members s r) :
    ∃ t, Blanks s (quote :: t) ∧ ∀ {n : Nat} (state : σ) (bound : (quote :: t).length ≤ n),
      Meets r (unbounded (Json.entries accept value state (quote :: t) bound)) (members.foldlM step state) := by
  induction members generalizing s with
  | nil => cases spelled
  | cons member members ih =>
    cases spelled with
    | last before spelled behind =>
      refine ⟨_, before, fun state bound => (follows spelled).entries fun state' read => ?_⟩
      rw [entries_last read behind]
      exact .read state'
    | more before spelled behind more =>
      obtain ⟨_, blanks, rest⟩ := ih more
      refine ⟨_, before, fun state bound => (follows spelled).entries fun state' read => ?_⟩
      obtain ⟨bound', same⟩ := entries_more read behind blanks bound
      -- The loop stands at the next quote, with the state that the first entry has led to.
      rw [same]
      exact rest state' bound'

/-- The members of an object behind its brace. -/
theorem EntryFollows.openObject (follows : EntryFollows accept value step) {members : List (String × Value)}
    {t r : Bytes} (spelled : Spells (.object members) (openBrace :: t) r) (state : σ) :
    Meets r ((Json.openObject accept value state).run t) (members.foldlM step state) := by
  cases spelled with
  | emptyObject blanks =>
    rw [Json.openObject, run_bind_ok (blanks.run_peekToken rfl)]
    exact .read state
  | object spelled =>
    obtain ⟨t, blanks, meets⟩ := follows.entries spelled
    rw [Json.openObject, run_bind_ok (blanks.run_peekToken rfl)]
    rw [run_eq]
    exact meets state _

/-- An entry that is not refused for its key goes on at its value. -/
theorem run_entry {state : σ} {key : String} {s t u : Bytes} (chars : SpellsChars key.toList s t)
    (accepted : (accept state key).run t = .ok ((), t)) (behind : Blanks t (colon :: u)) :
    (entry accept value state).run (quote :: s) = (within (.key key) (value state key)).run u := by
  have read : (within .unknown (do advance; openString)).run (quote :: s) = .ok (key, t) := by
    rw [run_within, run_bind_ok (run_advance _ _), chars.run_openString, String.ofList_toList]
  rw [entry, run_bind_ok read, run_bind_ok accepted, run_bind_ok (behind.run_peekToken rfl)]
  dsimp only
  rw [if_pos rfl, run_bind_ok (run_advance _ _)]

/-- An entry that is refused for its key. -/
theorem run_entry_refused {state : σ} {key : String} {s t : Bytes} {failure : Failure}
    (chars : SpellsChars key.toList s t) (refused : (accept state key).run t = .error failure) :
    (entry accept value state).run (quote :: s) = .error failure := by
  have read : (within .unknown (do advance; openString)).run (quote :: s) = .ok (key, t) := by
    rw [run_within, run_bind_ok (run_advance _ _), chars.run_openString, String.ofList_toList]
  rw [entry, run_bind_ok read, run_bind_error refused]

end entries

/-- What a map is read of; `none` stands for values that may not be reached for want of a level. -/
def Value.asMap (f : Option (Value → Outcome α)) : Value → Outcome (List (String × α))
  | .object members =>
    match f with
    | none => .error (some ⟨.nestingTooDeep, []⟩)
    | some f => members.foldlM (assignTo f) []
  | v => .error (v.misfit .map)
where
  /-- One more entry. -/
  assignTo (f : Value → Outcome α) (sofar : List (String × α)) : String × Value → Outcome (List (String × α))
    | (key, v) => (f v >>= fun value => pure (assign key value sofar)).within (.key key)

theorem Value.asMap_eq_misfit {f : Option (Value → Outcome α)} {v : Value} {b : UInt8} (leads : v.Leads b)
    (other : b ≠ openBrace) : v.asMap f = .error (v.misfit .map) := by
  cases v with
  | object => exact absurd leads other
  | _ => rfl

/-- The entries of a map are assigned one after the other. -/
theorem entryFollows_assignTo {reader : Reader α} {f : Value → Outcome α} (follows : reader.Follows f) :
    EntryFollows (fun _ _ => pure ()) (fun sofar key => do pure (assign key (← reader) sofar))
      (Value.asMap.assignTo f) := by
  intro sofar member s r spelled
  cases spelled with
  | intro chars behind before spelled =>
    rw [run_entry chars (run_pure _ _) behind]
    exact (follows.bind_pure (assign _ · sofar) before spelled).within _

/-- **A map is read entry by entry**, whichever way it is spelled. -/
theorem map_follows {reader : Option (Reader α)} {f : Option (Value → Outcome α)}
    (follows : Option.Rel (fun reader f => Reader.Follows reader f) reader f) :
    (Json.map reader).Follows (Value.asMap f) := by
  intro v s t r before spelled
  obtain ⟨b, t, rfl, leads⟩ := spelled.leads
  unfold Json.map
  rw [run_bind_ok (before.run_peekToken leads.visible)]
  dsimp only
  by_cases isObject : b = openBrace
  · subst isObject
    obtain ⟨members, rfl⟩ := leads.eq_object
    rw [if_pos rfl]
    cases follows with
    | none => exact .refused _ _ _
    | some follows =>
      rw [run_bind_ok (run_advance _ _)]
      exact (entryFollows_assignTo follows).openObject spelled []
  · rw [if_neg isObject, Value.asMap_eq_misfit leads isObject]
    exact spelled.meets_wrongKind leads .map

end SchemaTypes.Json
