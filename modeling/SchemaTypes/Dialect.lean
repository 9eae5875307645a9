import SchemaTypes.Declaration

/-!
# Dialects

A dialect only decides how declarations are spelled; which there are, their order and their names do not
depend on it.
-/

namespace SchemaTypes
set_option autoImplicit false

/-- How declarations are spelled. -/
structure Dialect where
  /-- The opening of a document with the given name. -/
  header : String → String
  /-- The end of a document. -/
  footer : String
  /-- The opening of the declaration with the given name. -/
  opening : String → String
  /-- The end of a declaration. -/
  closing : String
  /-- The identifier of a field with the given exported name. -/
  identifier : String → String
  /-- A field, from its key, its identifier and the text of its type. -/
  fieldText : (key identifier type : String) → String
  primitive : Primitive → String
  mapOf : String → String
  sequenceOf : String → String
  /-- The type of a field that holds another declaration. -/
  holding : String → String

namespace Dialect

variable (d : Dialect)

/-- The text of a type. -/
def spellType : TypeExpr → String
  | .reference name | .named name => name
  | .primitive type => d.primitive type
  | .map element => d.mapOf (spellType element)
  | .sequence element => d.sequenceOf (spellType element)

/-- The text of a type as the type of a field. -/
def spellFieldType (type : TypeExpr) : String :=
  match type with
  | .reference _ | .named _ => d.holding (d.spellType type)
  | _ => d.spellType type

/-- The text of a field. -/
def spellField (field : Field) : String :=
  d.fieldText field.key (d.identifier field.name) (d.spellFieldType field.type)

/-- The text of a declaration. -/
def spellDeclaration (declaration : Declaration) : String :=
  d.opening declaration.id ++ String.join (declaration.fields.map d.spellField) ++ d.closing

/-- The text of declarations, one behind the other. -/
def spellDeclarations (declarations : List Declaration) : String :=
  String.join (declarations.map d.spellDeclaration)

end Dialect

end SchemaTypes
