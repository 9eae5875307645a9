import SchemaTypes.Entries
import SchemaTypes.Resolution

/-!
# Declarations

A declaration is a name with its fields, in the order of their keys. It comes from an object schema with
properties; each property is resolved under the name of the declaration, with its key as its own id.
-/

namespace SchemaTypes
set_option autoImplicit false

/-- A field of a declaration: the key it has in documents, the exported form of it, and its type. -/
structure Field where
  key : String
  name : String
  type : TypeExpr
deriving DecidableEq, Repr

/-- A named type with its fields. -/
structure Declaration where
  id : String
  fields : List Field
deriving DecidableEq, Repr

/-- The fields for the properties of the declaration `owner`, and the schemas they lift out. -/
def resolveFields (owner : String) : List (String × Schema) → Traced Defect (List Field × List Schema)
  | [] => pure ([], [])
  | (key, property) :: more => do
    let resolved ← { property with id := key }.resolve owner
    let (fields, hoisted) ← resolveFields owner more
    pure (⟨key, exported key, resolved.type⟩ :: fields, resolved.hoisted.toList ++ hoisted)

/-- The declaration of an object schema with properties, and the schemas lifted out of it. -/
def Schema.declare (s : Schema) : Traced Defect (Declaration × List Schema) :=
  if s.isStruct then do
    let (fields, hoisted) ← resolveFields s.id (sortedByKey (s.properties.getD []))
    Traced.report (.emitted s.id fields.length hoisted.length)
    pure (⟨s.id, fields⟩, hoisted)
  else Traced.fail (.notStruct s.id)

end SchemaTypes
