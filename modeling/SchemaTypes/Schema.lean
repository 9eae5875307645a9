/-!
# Schema documents

A document names a set of schemas. A schema is a tree: maps and arrays have one child, an object has
named properties. Entries keep the order they were written in, and their keys are distinct.
-/

namespace SchemaTypes
set_option autoImplicit false

/-- A node of a schema. The empty text stands for an absent `id`, kind, format or reference. -/
structure Schema where
  id : String := ""
  kind : String := ""
  format : String := ""
  reference : String := ""
  items : Option Schema := none
  additionalProperties : Option Schema := none
  properties : Option (List (String × Schema)) := none
deriving Inhabited, BEq, Repr

namespace Schema

/-- Whether the node stands for another declaration. -/
def isReference (s : Schema) : Bool :=
  s.reference ≠ ""

/-- Whether the node is an object with a fixed set of properties, the only shape that is declared. -/
def isStruct (s : Schema) : Bool :=
  !s.isReference && s.kind == "object" && s.additionalProperties.isNone && s.properties.isSome

/-- The object schema `id` with the given properties. -/
def struct (id : String) (properties : List (String × Schema)) : Schema where
  id := id
  kind := "object"
  properties := some properties

@[simp] theorem isStruct_struct (id : String) (properties : List (String × Schema)) :
    (struct id properties).isStruct = true := rfl

end Schema

/-- A named collection of schemas. -/
structure Document where
  name : String := ""
  schemas : List (String × Schema) := []
deriving Inhabited, BEq, Repr

/-- The schemas that are declared by the document itself; one without an id takes its key. -/
def Document.roots (doc : Document) : List Schema :=
  doc.schemas.map fun (key, schema) => if schema.id = "" then { schema with id := key } else schema

end SchemaTypes
