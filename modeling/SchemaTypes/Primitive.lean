/-!
# Primitive types

A schema without structure is told by its kind and format. The table is fixed: there is no fallback,
and integers of 64 bits travel as strings.
-/

namespace SchemaTypes
set_option autoImplicit false

/-- The types a schema without structure can have. -/
inductive Primitive where
  | bool
  | int32
  | uint32
  | float64
  | float32
  | string
  | bytes
  | int64
  | uint64
deriving DecidableEq, Repr

/-- The primitive types with their kinds and formats. -/
def Primitive.table : List ((String × String) × Primitive) := [
  (("boolean", ""), .bool),
  (("integer", "int32"), .int32),
  (("integer", "uint32"), .uint32),
  (("number", "double"), .float64),
  (("number", "float"), .float32),
  (("string", ""), .string),
  (("string", "byte"), .bytes),
  (("string", "int64"), .int64),
  (("string", "uint64"), .uint64)]

/-- The primitive type of a kind and a format. -/
def Primitive.ofKind? (kind format : String) : Option Primitive :=
  table.lookup (kind, format)

end SchemaTypes
