import SchemaTypes.Defect
import SchemaTypes.Naming
import SchemaTypes.Schema
import SchemaTypes.Traced
import SchemaTypes.TypeExpr

/-!
# Resolving a schema to a type

A reference stands for itself. An object is a map if it tells the type of additional properties, whatever
else it has; otherwise its properties are lifted out as a declaration named by its path. An array is a
sequence. Everything else is a primitive type. Maps and sequences pass their own path on, so the name of
what is lifted out shows every step to it.
-/

namespace SchemaTypes
set_option autoImplicit false

/-- The type of a schema, and the schema that has to be declared for it, if any. -/
structure Resolution where
  type : TypeExpr
  hoisted : Option Schema

/-- The primitive type of a kind and a format, wanted at `id`. -/
def Primitive.require (id kind format : String) : Except Defect Primitive :=
  match ofKind? kind format with
  | some type => .ok type
  | none => .error (.unknownPrimitive id kind format)

/-- Reports an object whose properties are lost because it is a map. -/
def reportDiscarded (name : String) (properties : Option (List (String × Schema))) : Traced Defect Unit :=
  match properties with
  | some _ => Traced.report (.discarding name)
  | none => pure ()

/-- The type of a schema found under the name `path`. -/
def Schema.resolve (path : String) : Schema → Traced Defect Resolution
  | ⟨id, kind, format, reference, items, additionalProperties, properties⟩ =>
    let name := qualified path id
    if reference ≠ "" then pure ⟨.reference reference, none⟩
    else if kind = "object" then
      match additionalProperties with
      | some element => do
        reportDiscarded name properties
        let resolved ← resolve name element
        pure { resolved with type := .map resolved.type }
      | none =>
        match properties with
        | some properties => do
          Traced.report (.hoisting name properties.length)
          pure ⟨.named name, some (struct name properties)⟩
        | none => Traced.fail (.shapelessObject name)
    else if kind = "array" then
      match items with
      | some element => do
        let resolved ← resolve name element
        pure { resolved with type := .sequence resolved.type }
      | none => Traced.fail (.arrayWithoutItems name)
    else do
      let type ← Traced.ofExcept (Primitive.require name kind format)
      pure ⟨.primitive type, none⟩

end SchemaTypes
