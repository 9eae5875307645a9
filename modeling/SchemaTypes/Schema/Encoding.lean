import SchemaTypes.Json.Value
import SchemaTypes.Schema

/-!
# Documents as JSON

A schema is written with all its fields in their order, absent children as `null`; a document with its
name and its schemas.
-/

namespace SchemaTypes
set_option autoImplicit false

open Json (Value)

namespace Schema

mutual

/-- A schema as a JSON value. -/
def toJson : Schema → Value
  | ⟨id, kind, format, reference, items, additionalProperties, properties⟩ => .object [
    ("id", .string id), ("type", .string kind), ("format", .string format), ("$ref", .string reference),
    ("items", childToJson items), ("additionalProperties", childToJson additionalProperties),
    ("properties", propertiesToJson properties)]

/-- A child; one that is absent is `null`. -/
def childToJson : Option Schema → Value
  | none => .null
  | some s => s.toJson

/-- The properties of an object; absent ones are `null`. -/
def propertiesToJson : Option (List (String × Schema)) → Value
  | none => .null
  | some entries => .object (entriesToJson entries)

/-- The entries of a map. -/
def entriesToJson : List (String × Schema) → List (String × Value)
  | [] => []
  | entry :: more => entryToJson entry :: entriesToJson more

/-- One entry of a map. -/
def entryToJson : String × Schema → String × Value
  | (key, s) => (key, s.toJson)

end

/-- The compact text of a schema. -/
def encode (s : Schema) : String :=
  s.toJson.compact

end Schema

namespace Document

/-- A document as a JSON value. -/
def toJson (doc : Document) : Value :=
  .object [("name", .string doc.name), ("schemas", .object (Schema.entriesToJson doc.schemas))]

/-- The compact text of a document. -/
def encode (doc : Document) : String :=
  doc.toJson.compact

end Document

end SchemaTypes
