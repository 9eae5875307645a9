import SchemaTypes.Primitive

/-!
# Types of fields

What a schema stands for, free of any dialect.
-/

namespace SchemaTypes
set_option autoImplicit false

/-- The type of a field. -/
inductive TypeExpr where
  /-- Another declaration, by the text of the reference. -/
  | reference (name : String)
  /-- A declaration of the same run. -/
  | named (name : String)
  | primitive (type : Primitive)
  /-- A map from strings. -/
  | map (element : TypeExpr)
  | sequence (element : TypeExpr)
deriving DecidableEq, Repr

end SchemaTypes
