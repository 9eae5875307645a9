import SchemaTypes.Proofs.Shape

/-!
# What a resolution lifts out

The type of a schema has one core: a reference, a primitive, or a declaration of the same run. Only the
last kind lifts a schema out, and that schema is a struct whose name is the core of the type. The name
extends the path the schema was resolved under, whatever ids stand on the way.
-/

namespace SchemaTypes
set_option autoImplicit false

/-- The declaration of the same run that is the core of a type. -/
def TypeExpr.named? : TypeExpr → Option String
  | .named name => some name
  | .map element | .sequence element => element.named?
  | .reference _ | .primitive _ => none

namespace Schema

/-- The schema of a property: its own id gives way to its key. -/
def ofEntry (entry : String × Schema) : Schema :=
  { entry.2 with id := entry.1 }

/-- Whether a schema has a type under `path`. -/
def Resolves (path : String) (s : Schema) : Prop :=
  ∃ r, (s.resolve path).result = .ok r

/-- The schemas that `s` lifts out under `path`, none if it has no type. -/
def lifted (path : String) (s : Schema) : List Schema :=
  match (s.resolve path).result with
  | .ok r => r.hoisted.toList
  | .error _ => []

/-- What a schema lifts out is a struct that is named by a path below `path`. -/
structure LiftedUnder (path : String) (s : Schema) : Prop where
  isStruct : s.isStruct = true
  below : ∃ steps, s.id = path ++ steps

/-- A path below a longer path is below the shorter one. -/
theorem LiftedUnder.shorten {path step : String} {s : Schema} (under : LiftedUnder (qualified path step) s) :
    LiftedUnder path s := by
  obtain ⟨steps, named⟩ := under.below
  exact ⟨under.isStruct, exported step ++ steps, by rw [named, qualified, String.append_assoc]⟩

/-- **Resolutions lift out what they name**, and nothing else. -/
theorem hoisted_of_resolve {path : String} {s : Schema} {r : Resolution}
    (resolved : (s.resolve path).result = .ok r) :
    r.hoisted.map (·.id) = r.type.named? ∧ ∀ h ∈ r.hoisted, LiftedUnder path h := by
  induction path, s using walk_induction generalizing r with
  | step path s ih =>
    rw [resolve_eq, Shape.result_resolve] at resolved
    cases shape : s.shape with
    | reference target =>
      rw [shape] at resolved
      cases resolved
      exact ⟨rfl, by simp⟩
    | map element =>
      rw [shape] at resolved
      obtain ⟨inner, done, rfl⟩ := map_eq_ok.1 resolved
      obtain ⟨core, under⟩ := ih element (by rw [shape]; rfl) done
      exact ⟨core, fun h mem => (under h mem).shorten⟩
    | struct properties =>
      rw [shape] at resolved
      cases resolved
      refine ⟨rfl, ?_⟩
      intro h mem
      cases mem
      exact ⟨rfl, exported s.id, rfl⟩
    | array element =>
      rw [shape] at resolved
      obtain ⟨inner, done, rfl⟩ := map_eq_ok.1 resolved
      obtain ⟨core, under⟩ := ih element (by rw [shape]; rfl) done
      exact ⟨core, fun h mem => (under h mem).shorten⟩
    | plain kind format =>
      rw [shape] at resolved
      obtain ⟨type, _, rfl⟩ := map_eq_ok.1 resolved
      exact ⟨rfl, by simp⟩
    | shapeless | bareArray =>
      rw [shape] at resolved
      cases resolved

/-- A schema lifts out one schema at most. -/
theorem lifted_eq_nil_or (path : String) (s : Schema) : s.lifted path = [] ∨ ∃ t, s.lifted path = [t] := by
  unfold lifted
  split
  · next r _ =>
    cases r.hoisted with
    | none => exact .inl rfl
    | some t => exact .inr ⟨t, rfl⟩
  · exact .inl rfl

/-- What a schema lifts out, by its shape: a struct itself, and a map or a sequence what its element does. -/
theorem lifted_eq (path : String) (s : Schema) :
    s.lifted path =
      match s.shape with
      | .struct properties => [struct (qualified path s.id) properties]
      | .map element _ | .array element => element.lifted (qualified path s.id)
      | _ => [] := by
  unfold lifted
  rw [resolve_eq, Shape.result_resolve]
  cases s.shape with
  | map element | array element =>
    simp only
    cases (element.resolve (qualified path s.id)).result <;> rfl
  | plain kind format =>
    simp only
    cases Primitive.require (qualified path s.id) kind format <;> rfl
  | _ => rfl

end Schema

end SchemaTypes
