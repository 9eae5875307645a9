import SchemaTypes.Resolution
import SchemaTypes.Proofs.Traced

/-!
# Shapes

What a schema stands for is decided by its reference, its kind and the child that its kind asks for; the
shape of a schema keeps these and drops the rest. A schema resolves by its id and its shape
(`Schema.resolve_eq`), and the way from a map or a sequence to its element is an induction of its own
(`Schema.walk_induction`).
-/

namespace SchemaTypes
set_option autoImplicit false

/-- What is left of a schema once its reference, or else its kind, has decided what it stands for. -/
inductive Shape where
  | reference (name : String)
  /-- A map, with the properties that are discarded because it is one. -/
  | map (element : Schema) (discarded : Option (List (String × Schema)))
  | struct (properties : List (String × Schema))
  /-- An object that is neither a map nor a struct. -/
  | shapeless
  | array (element : Schema)
  | bareArray
  | plain (kind format : String)

/-- The element of a map or of an array. -/
def Shape.element? : Shape → Option Schema
  | .map element _ | .array element => some element
  | _ => none

/-- The type of a shape met under `name`. -/
def Shape.resolve (name : String) : Shape → Traced Defect Resolution
  | .reference target => pure ⟨.reference target, none⟩
  | .map element discarded => do
    reportDiscarded name discarded
    let resolved ← element.resolve name
    pure { resolved with type := .map resolved.type }
  | .struct properties => do
    Traced.report (.hoisting name properties.length)
    pure ⟨.named name, some (Schema.struct name properties)⟩
  | .shapeless => Traced.fail (.shapelessObject name)
  | .array element => do
    let resolved ← element.resolve name
    pure { resolved with type := .sequence resolved.type }
  | .bareArray => Traced.fail (.arrayWithoutItems name)
  | .plain kind format => do
    let type ← Traced.ofExcept (Primitive.require name kind format)
    pure ⟨.primitive type, none⟩

@[simp] theorem result_reportDiscarded (name : String) (properties : Option (List (String × Schema))) :
    (reportDiscarded name properties).result = .ok () := by
  cases properties <;> rfl

/-- The outcome for a shape, without its events. -/
theorem Shape.result_resolve (name : String) (shape : Shape) :
    (shape.resolve name).result =
      match shape with
      | .reference target => .ok ⟨.reference target, none⟩
      | .map element _ => (element.resolve name).result.map fun r => { r with type := .map r.type }
      | .struct properties => .ok ⟨.named name, some (Schema.struct name properties)⟩
      | .shapeless => .error (.shapelessObject name)
      | .array element => (element.resolve name).result.map fun r => { r with type := .sequence r.type }
      | .bareArray => .error (.arrayWithoutItems name)
      | .plain kind format => (Primitive.require name kind format).map fun type => ⟨.primitive type, none⟩ := by
  cases shape with
  | map element discarded =>
    rw [resolve, Traced.bind_of_ok _ (result_reportDiscarded name discarded)]
    exact Traced.result_map _ _
  | array element => exact Traced.result_map _ _
  | plain kind format => exact Traced.result_map _ _
  | _ => rfl

namespace Schema

/-- The shape of a schema. -/
def shape : Schema → Shape
  | ⟨_, kind, format, reference, items, additionalProperties, properties⟩ =>
    if reference ≠ "" then .reference reference
    else if kind = "object" then
      match additionalProperties, properties with
      | some element, discarded => .map element discarded
      | none, some properties => .struct properties
      | none, none => .shapeless
    else if kind = "array" then
      match items with
      | some element => .array element
      | none => .bareArray
    else .plain kind format

/-- The shape of a schema, by its fields. -/
theorem shape_eq (s : Schema) :
    s.shape =
      if s.reference ≠ "" then .reference s.reference
      else if s.kind = "object" then
        match s.additionalProperties, s.properties with
        | some element, discarded => .map element discarded
        | none, some properties => .struct properties
        | none, none => .shapeless
      else if s.kind = "array" then
        match s.items with
        | some element => .array element
        | none => .bareArray
      else .plain s.kind s.format := by
  cases s
  rfl

/-- The schemas that are declared are those with the shape of a struct, and they are declared with its
properties. -/
theorem shape_eq_struct {s : Schema} {properties : List (String × Schema)} :
    s.shape = .struct properties ↔ s.isStruct = true ∧ s.properties = some properties := by
  rw [shape_eq, isStruct, isReference]
  by_cases noReference : s.reference = ""
  · rw [if_neg (Decidable.not_not.2 noReference)]
    by_cases object : s.kind = "object"
    · rw [if_pos object]
      cases s.additionalProperties <;> cases s.properties <;> simp [noReference, object]
    · rw [if_neg object]
      by_cases array : s.kind = "array"
      · cases s.items <;> simp [array]
      · simp [object, array]
  · simp [noReference]

/-- The schemas that are declared are those with the shape of a struct. -/
theorem isStruct_iff_shape {s : Schema} : s.isStruct = true ↔ ∃ properties, s.shape = .struct properties := by
  constructor
  · intro struct
    have given : s.properties.isSome = true := (Bool.and_eq_true_iff.1 struct).2
    obtain ⟨properties, found⟩ := Option.isSome_iff_exists.1 given
    exact ⟨properties, shape_eq_struct.2 ⟨struct, found⟩⟩
  · rintro ⟨properties, shape⟩
    exact (shape_eq_struct.1 shape).1

/-- An object without a shape has no children. -/
theorem of_shape_eq_shapeless {s : Schema} (shape : s.shape = .shapeless) :
    s.reference = "" ∧ s.kind = "object" ∧ s.additionalProperties = none ∧ s.properties = none := by
  rw [shape_eq] at shape
  split at shape
  · cases shape
  · next noReference =>
    split at shape
    · next object =>
      split at shape
      · cases shape
      · cases shape
      · next noElement noProperties =>
        exact ⟨Decidable.not_not.1 noReference, object, noElement, noProperties⟩
    · split at shape
      · split at shape <;> cases shape
      · cases shape

theorem of_shape_eq_bareArray {s : Schema} (shape : s.shape = .bareArray) :
    s.reference = "" ∧ s.kind = "array" ∧ s.items = none := by
  rw [shape_eq] at shape
  split at shape
  · cases shape
  · next noReference =>
    split at shape
    · split at shape <;> cases shape
    · split at shape
      · next array =>
        split at shape
        · cases shape
        · next noItems => exact ⟨Decidable.not_not.1 noReference, array, noItems⟩
      · cases shape

/-- What is neither an object nor an array has just a kind and a format. -/
theorem of_shape_eq_plain {s : Schema} {kind format : String} (shape : s.shape = .plain kind format) :
    s.reference = "" ∧ s.kind ≠ "object" ∧ s.kind ≠ "array" ∧ s.kind = kind ∧ s.format = format := by
  rw [shape_eq] at shape
  split at shape
  · cases shape
  · next noReference =>
    split at shape
    · split at shape <;> cases shape
    · next notObject =>
      split at shape
      · split at shape <;> cases shape
      · next notArray =>
        cases shape
        exact ⟨Decidable.not_not.1 noReference, notObject, notArray, rfl, rfl⟩

@[simp] theorem shape_with_id (s : Schema) (id : String) : shape { s with id := id } = s.shape := by
  cases s
  rfl

/-- **Only the id and the shape of a schema decide what it resolves to.** -/
theorem resolve_eq (path : String) (s : Schema) : s.resolve path = s.shape.resolve (qualified path s.id) := by
  obtain ⟨_, kind, _, reference, items, additionalProperties, properties⟩ := s
  rw [resolve.eq_def]
  simp only [shape]
  split
  · rfl
  · split
    · cases additionalProperties <;> cases properties <;> rfl
    · split
      · cases items <;> rfl
      · rfl

/-- Induction from a schema to the element it is a map or a sequence of, under the path that it passes on. -/
theorem walk_induction {motive : String → Schema → Prop}
    (step : ∀ path s,
      (∀ element, s.shape.element? = some element → motive (qualified path s.id) element) → motive path s)
    (path : String) (s : Schema) : motive path s := by
  fun_induction resolve path s with
  | case2 =>
    rename_i noReference element ih
    refine step _ _ fun other found => ?_
    have same : element = other := by simpa [shape, noReference, Shape.element?] using found
    exact same ▸ ih
  | case5 =>
    rename_i noReference element _ ih
    refine step _ _ fun other found => ?_
    have same : element = other := by simpa [shape, noReference, Shape.element?] using found
    exact same ▸ ih
  | _ =>
    refine step _ _ fun other found => ?_
    simp_all [shape, Shape.element?]

end Schema

end SchemaTypes
