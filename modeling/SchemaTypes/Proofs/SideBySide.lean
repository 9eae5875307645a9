import Mathlib.Data.List.Forall2
import SchemaTypes.Proofs.Declaration

/-!
# Two runs side by side

Schemas of two runs correspond if they have the same name and are declared alike: with the same defect, or as
the same declaration, and then what is lifted out of them corresponds again, one by one. A relation between
schemas that promises this is a `Correspondence`. It is enough to see that the properties resolve alike in the
order of their keys (`alike_declare`), and schemas resolve alike if their shapes go on in step
(`alike_resolve`).
-/

namespace SchemaTypes
set_option autoImplicit false

variable {R : Schema → Schema → Prop}

/-- Two values that are the same, beside schemas that `R` relates one by one. -/
structure Beside {α : Type} (R : Schema → Schema → Prop) (x y : α × List Schema) : Prop where
  same : x.1 = y.1
  lifted : List.Forall₂ R x.2 y.2

/-- Resolutions to the same type that lift out schemas which `R` relates, or none. -/
structure Resolution.Beside (R : Schema → Schema → Prop) (r r' : Resolution) : Prop where
  type : r.type = r'.type
  hoisted : Option.Rel R r.hoisted r'.hoisted

/-- Properties of `owner` under the same key that resolve alike. -/
structure EntryBeside (R : Schema → Schema → Prop) (owner : String) (entry entry' : String × Schema) : Prop where
  key : entry.1 = entry'.1
  resolve : Alike (Resolution.Beside R) ((Schema.ofEntry entry).resolve owner).result
    ((Schema.ofEntry entry').resolve owner).result

/-- A relation between schemas that have the same name and are declared alike. -/
structure Correspondence (R : Schema → Schema → Prop) : Prop where
  id_eq : ∀ {s t : Schema}, R s t → s.id = t.id
  declare : ∀ {s t : Schema}, R s t → Alike (Beside R) s.declare.result t.declare.result

/-- Shapes of one form, with elements that `E` relates and properties that `P` relates. What a map discards
does not matter. -/
inductive Shape.Beside (E : Schema → Schema → Prop)
    (P : List (String × Schema) → List (String × Schema) → Prop) : Shape → Shape → Prop where
  | reference (name : String) : Beside E P (.reference name) (.reference name)
  | map {element element' : Schema} {discarded discarded' : Option (List (String × Schema))}
      (alike : E element element') : Beside E P (.map element discarded) (.map element' discarded')
  | struct {properties properties' : List (String × Schema)} (alike : P properties properties') :
      Beside E P (.struct properties) (.struct properties')
  | shapeless : Beside E P .shapeless .shapeless
  | array {element element' : Schema} (alike : E element element') :
      Beside E P (.array element) (.array element')
  | bareArray : Beside E P .bareArray .bareArray
  | plain (kind format : String) : Beside E P (.plain kind format) (.plain kind format)

theorem Shape.Beside.isStruct_eq {E : Schema → Schema → Prop}
    {P : List (String × Schema) → List (String × Schema) → Prop} {s t : Schema}
    (same : Shape.Beside E P s.shape t.shape) : s.isStruct = t.isStruct := by
  rw [Bool.eq_iff_iff, Schema.isStruct_iff_shape, Schema.isStruct_iff_shape]
  generalize s.shape = shape, t.shape = shape' at same ⊢
  cases same <;> simp

/-- **Schemas resolve alike if their shapes go on in step.** Only a reference may have another id on the other
side, since no name is made of it. -/
theorem alike_resolve {E : Schema → Schema → Prop} {P : List (String × Schema) → List (String × Schema) → Prop}
    (shapes : ∀ {s t : Schema}, E s t → Shape.Beside E P s.shape t.shape)
    (ids : ∀ {s t : Schema}, E s t → s.id = t.id ∨ ∃ target, s.shape = .reference target)
    (structs : ∀ (name : String) {properties properties' : List (String × Schema)},
      P properties properties' → R (.struct name properties) (.struct name properties'))
    {s t : Schema} (alike : E s t) (path : String) :
    Alike (Resolution.Beside R) (s.resolve path).result (t.resolve path).result := by
  induction path, s using Schema.walk_induction generalizing t with
  | step path s ih =>
    have same := shapes alike
    rw [Schema.resolve_eq, Schema.resolve_eq path t, Shape.result_resolve, Shape.result_resolve]
    rcases ids alike with named | ⟨target, isReference⟩
    · rw [← named]
      generalize s.shape = shape, t.shape = shape' at same ih ⊢
      cases same with
      | reference name => exact .ok ⟨rfl, .none⟩
      | map alike =>
        refine (ih _ rfl alike).map ?_
        intro r r' same
        exact ⟨congrArg TypeExpr.map same.type, same.hoisted⟩
      | struct alike => exact .ok ⟨rfl, .some (structs _ alike)⟩
      | shapeless => exact .error _
      | array alike =>
        refine (ih _ rfl alike).map ?_
        intro r r' same
        exact ⟨congrArg TypeExpr.sequence same.type, same.hoisted⟩
      | bareArray => exact .error _
      | plain kind format =>
        simp only
        cases Primitive.require (qualified path s.id) kind format with
        | error defect => exact .error defect
        | ok type => exact .ok ⟨rfl, .none⟩
    · generalize s.shape = shape, t.shape = shape' at same isReference ⊢
      subst isReference
      cases same
      exact .ok ⟨rfl, .none⟩

theorem forall₂_toList {x y : Option Schema} (alike : Option.Rel R x y) :
    List.Forall₂ R x.toList y.toList := by
  cases alike with
  | some related => exact .cons related .nil
  | none => exact .nil

/-- Properties that resolve alike one by one do so together. -/
theorem alike_resolveFields {owner : String} {entries entries' : List (String × Schema)}
    (alike : List.Forall₂ (EntryBeside R owner) entries entries') :
    Alike (Beside R) (resolveFields owner entries).result (resolveFields owner entries').result := by
  induction alike with
  | nil => exact .ok ⟨rfl, .nil⟩
  | cons first _ ih =>
    refine first.resolve.bind ?_
    intro r r' resolved
    refine ih.bind ?_
    rintro ⟨fields, hoisted⟩ ⟨fields', hoisted'⟩ ⟨same, lifted⟩
    obtain rfl : fields = fields' := same
    rw [first.key, resolved.type]
    exact .ok ⟨rfl, List.rel_append (forall₂_toList resolved.hoisted) lifted⟩

/-- Schemas with the same name and shapes of one form are declared alike if the properties resolve alike. -/
theorem alike_declare {E : Schema → Schema → Prop} {P : List (String × Schema) → List (String × Schema) → Prop}
    {s t : Schema} (id : s.id = t.id) (shapes : Shape.Beside E P s.shape t.shape)
    (entries : ∀ {properties properties' : List (String × Schema)}, P properties properties' →
      List.Forall₂ (EntryBeside R s.id) (sortedByKey properties) (sortedByKey properties')) :
    Alike (Beside R) s.declare.result t.declare.result := by
  unfold Schema.declare
  by_cases struct : s.isStruct = true
  · have struct' : t.isStruct = true := shapes.isStruct_eq ▸ struct
    obtain ⟨properties, shape⟩ := Schema.isStruct_iff_shape.1 struct
    obtain ⟨properties', shape'⟩ := Schema.isStruct_iff_shape.1 struct'
    rw [shape, shape'] at shapes
    cases shapes with
    | struct alike =>
      rw [if_pos struct, if_pos struct', (Schema.shape_eq_struct.1 shape).2,
        (Schema.shape_eq_struct.1 shape').2, ← id]
      refine (alike_resolveFields (entries alike)).bind ?_
      rintro ⟨fields, hoisted⟩ ⟨fields', hoisted'⟩ ⟨same, lifted⟩
      obtain rfl : fields = fields' := same
      exact .ok ⟨rfl, lifted⟩
  · have notStruct' : ¬t.isStruct = true := shapes.isStruct_eq ▸ struct
    rw [if_neg struct, if_neg notStruct', id]
    exact .error _

/-- Every schema corresponds to itself. -/
theorem Correspondence.eq : Correspondence Eq where
  id_eq := by
    rintro s _ rfl
    rfl
  declare := by
    rintro s _ rfl
    cases s.declare.result with
    | error defect => exact .error defect
    | ok value => exact .ok ⟨rfl, List.forall₂_eq_eq_eq ▸ rfl⟩

end SchemaTypes
