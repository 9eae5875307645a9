import SchemaTypes.Traced

/-!
# Outcomes

The outcome of a traced computation without its events, the outcomes of a list collected into one, and the outcomes of
two computations side by side.
-/

namespace SchemaTypes
set_option autoImplicit false

variable {ε α β γ δ : Type}

theorem map_eq_ok {x : Except ε α} {f : α → β} {value : β} :
    x.map f = .ok value ↔ ∃ a, x = .ok a ∧ f a = value := by
  cases x <;> simp [Except.map]

theorem map_eq_error {x : Except ε α} {f : α → β} {e : ε} : x.map f = .error e ↔ x = .error e := by
  cases x <;> simp [Except.map]

theorem bind_eq_ok {x : Except ε α} {next : α → Except ε β} {value : β} :
    x >>= next = .ok value ↔ ∃ a, x = .ok a ∧ next a = .ok value := by
  cases x <;> simp [bind, Except.bind]

theorem bind_eq_error {x : Except ε α} {next : α → Except ε β} {e : ε} :
    x >>= next = .error e ↔ x = .error e ∨ ∃ a, x = .ok a ∧ next a = .error e := by
  cases x <;> simp [bind, Except.bind]

/-- Results are collected if all of them are values. -/
theorem mapM_id_eq_ok {results : List (Except ε α)} {values : List α} :
    results.mapM id = .ok values ↔ results = values.map .ok := by
  induction results generalizing values with
  | nil => cases values <;> simp [pure, Except.pure]
  | cons first more ih =>
    rw [List.mapM_cons, id, bind_eq_ok]
    constructor
    · rintro ⟨value, rfl, collected⟩
      obtain ⟨others, rest, same⟩ := bind_eq_ok.1 collected
      cases same
      rw [ih.1 rest, List.map_cons]
    · intro all
      cases values with
      | nil => cases all
      | cons value others =>
        obtain ⟨rfl, rest⟩ := List.cons.inj all
        exact ⟨value, rfl, bind_eq_ok.2 ⟨others, ih.2 rest, rfl⟩⟩

/-- Otherwise the first error among them is the answer. -/
theorem mapM_id_eq_error {results : List (Except ε α)} {e : ε} :
    results.mapM id = .error e ↔
      ∃ (values : List α) (rest : List (Except ε α)), results = values.map .ok ++ .error e :: rest := by
  induction results with
  | nil => simp [pure, Except.pure]
  | cons first more ih =>
    rw [List.mapM_cons, id, bind_eq_error]
    constructor
    · rintro (rfl | ⟨value, rfl, failed⟩)
      · exact ⟨[], more, rfl⟩
      · rcases bind_eq_error.1 failed with later | ⟨others, -, impossible⟩
        · obtain ⟨values, rest, rfl⟩ := ih.1 later
          exact ⟨value :: values, rest, rfl⟩
        · cases impossible
    · rintro ⟨values, rest, split⟩
      cases values with
      | nil => exact .inl (List.cons.inj split).1
      | cons value others =>
        obtain ⟨rfl, later⟩ := List.cons.inj split
        exact .inr ⟨value, rfl, bind_eq_error.2 (.inl (ih.2 ⟨others, rest, later⟩))⟩

/-- A computation in two parts fails in the first part, or in the second one. -/
theorem Traced.result_bind_eq_error {x : Traced ε α} {next : α → Traced ε β} {e : ε} :
    (x >>= next).result = .error e ↔
      x.result = .error e ∨ ∃ a, x.result = .ok a ∧ (next a).result = .error e := by
  cases outcome : x.result <;> simp [bind, Traced.bind, outcome]

/-- A value that is only changed at the end. -/
theorem Traced.bind_pure (x : Traced ε α) (f : α → β) :
    (x >>= fun value => pure (f value)) = ⟨x.events, x.result.map f⟩ := by
  cases outcome : x.result <;> simp [bind, Traced.bind, outcome, Except.map]

/-- A computation whose value is only changed at the end fails as it did before. -/
theorem Traced.result_map (x : Traced ε α) (f : α → β) :
    (x >>= fun value => pure (f value)).result = x.result.map f := by
  rw [bind_pure]

namespace Traced

/-- A computation whose failure is told in another way. -/
def mapError (x : Traced ε α) (f : ε → δ) : Traced δ α :=
  ⟨x.events, x.result.mapError f⟩

/-- Computations one after the other; the first failure ends it. -/
def inTurn : List (Traced ε α) → Traced ε (List α)
  | [] => pure []
  | x :: more => do
    let first ← x
    let others ← inTurn more
    pure (first :: others)

/-- How computations in turn end: all of them succeed, or one fails behind others that succeed, and nothing behind
it shows. -/
inductive Turns : List (Traced ε α) → List Event → Except ε (List α) → Prop where
  | all {xs : List (Traced ε α)} {values : List α} (each : xs.map result = values.map .ok) :
      Turns xs (xs.flatMap events) (.ok values)
  | upTo {before rest : List (Traced ε α)} {failing : Traced ε α} {e : ε}
      (each : ∀ x ∈ before, ∃ value, x.result = .ok value) (fails : failing.result = .error e) :
      Turns (before ++ failing :: rest) (before.flatMap events ++ failing.events) (.error e)

theorem inTurn_cons {x : Traced ε α} {value : α} (first : x.result = .ok value) (more : List (Traced ε α)) :
    inTurn (x :: more) = ⟨x.events ++ (inTurn more).events, (inTurn more).result.map (value :: ·)⟩ := by
  rw [inTurn, bind_of_ok _ first, bind_pure]

theorem inTurn_of_all {xs : List (Traced ε α)} {values : List α} (each : xs.map result = values.map .ok) :
    inTurn xs = ⟨xs.flatMap events, .ok values⟩ := by
  induction xs generalizing values with
  | nil =>
    cases values with
    | nil => rfl
    | cons => cases each
  | cons x more ih =>
    cases values with
    | nil => cases each
    | cons value others =>
      obtain ⟨first, behind⟩ := List.cons.inj each
      rw [inTurn_cons first, ih behind]
      rfl

theorem inTurn_of_failing {before : List (Traced ε α)} {failing : Traced ε α} {e : ε} (rest : List (Traced ε α))
    (each : ∀ x ∈ before, ∃ value, x.result = .ok value) (fails : failing.result = .error e) :
    inTurn (before ++ failing :: rest) = ⟨before.flatMap events ++ failing.events, .error e⟩ := by
  induction before with
  | nil => exact bind_of_error _ fails
  | cons x more ih =>
    obtain ⟨value, first⟩ := each x List.mem_cons_self
    rw [List.cons_append, inTurn_cons first, ih fun y mem => each y (List.mem_cons_of_mem _ mem),
      List.flatMap_cons, List.append_assoc]
    rfl

/-- Computations in turn end in one way. -/
theorem Turns.inTurn_eq {xs : List (Traced ε α)} {events : List Event} {result : Except ε (List α)}
    (turns : Turns xs events result) : inTurn xs = ⟨events, result⟩ := by
  cases turns with
  | all each => exact inTurn_of_all each
  | upTo each fails => exact inTurn_of_failing _ each fails

theorem Turns.cons {x : Traced ε α} {value : α} {more : List (Traced ε α)} {events : List Event}
    {result : Except ε (List α)} (first : x.result = .ok value) (turns : Turns more events result) :
    Turns (x :: more) (x.events ++ events) (result.map (value :: ·)) := by
  cases turns with
  | @all _ others each =>
    have both : (x :: more).map Traced.result = (value :: others).map .ok := by
      rw [List.map_cons, List.map_cons, first, each]
    exact Turns.all both
  | upTo each fails =>
    rw [← List.append_assoc]
    exact Turns.upTo (List.forall_mem_cons.2 ⟨⟨value, first⟩, each⟩) fails

/-- Computations in turn end in some way. -/
theorem turns_inTurn (xs : List (Traced ε α)) : Turns xs (inTurn xs).events (inTurn xs).result := by
  induction xs with
  | nil => exact Turns.all rfl
  | cons x more ih =>
    cases outcome : x.result with
    | error e =>
      rw [inTurn, bind_of_error _ outcome]
      exact Turns.upTo (List.forall_mem_nil _) outcome
    | ok value =>
      rw [inTurn_cons outcome]
      exact ih.cons outcome

end Traced

/-- Outcomes of two computations that fail alike, or else have values that `R` relates. -/
inductive Alike (R : α → β → Prop) : Except ε α → Except ε β → Prop where
  | error (e : ε) : Alike R (.error e) (.error e)
  | ok {a : α} {b : β} (values : R a b) : Alike R (.ok a) (.ok b)

namespace Alike

variable {R : α → β → Prop} {S : γ → δ → Prop}

theorem eq_error {x : Except ε α} {y : Except ε β} {e : ε} (alike : Alike R x y) (failed : x = .error e) :
    y = .error e := by
  subst failed
  cases alike
  rfl

theorem eq_ok {x : Except ε α} {y : Except ε β} {a : α} (alike : Alike R x y) (done : x = .ok a) :
    ∃ b, y = .ok b ∧ R a b := by
  subst done
  cases alike with
  | ok values => exact ⟨_, rfl, values⟩

theorem map {x : Except ε α} {y : Except ε β} {f : α → γ} {g : β → δ} (alike : Alike R x y)
    (values : ∀ a b, R a b → S (f a) (g b)) : Alike S (x.map f) (y.map g) := by
  cases alike with
  | error e => exact .error e
  | ok related => exact .ok (values _ _ related)

/-- Computations that begin alike, and go on alike from related values, are alike. -/
theorem bind {x : Traced ε α} {y : Traced ε β} {f : α → Traced ε γ} {g : β → Traced ε δ}
    (first : Alike R x.result y.result) (next : ∀ a b, R a b → Alike S (f a).result (g b).result) :
    Alike S (x >>= f).result (y >>= g).result := by
  generalize left : x.result = outcome, right : y.result = outcome' at first
  cases first with
  | error e =>
    rw [Traced.bind_of_error f left, Traced.bind_of_error g right]
    exact .error e
  | ok related =>
    rw [Traced.bind_of_ok f left, Traced.bind_of_ok g right]
    exact next _ _ related

end Alike

end SchemaTypes
