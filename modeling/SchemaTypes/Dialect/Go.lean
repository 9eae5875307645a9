import SchemaTypes.Dialect

/-!
# Structs of Go

A package of struct types, one field a line. Formatting is left to later tools.
-/

namespace SchemaTypes.Dialect
set_option autoImplicit false

/-- The names of the primitive types in Go. -/
def goPrimitive : Primitive → String
  | .bool => "bool"
  | .int32 => "int32"
  | .uint32 => "uint32"
  | .float64 => "float64"
  | .float32 => "float32"
  | .string => "string"
  | .bytes => "[]byte"
  | .int64 => "int64"
  | .uint64 => "uint64"

/-- Struct types of a Go package. -/
def go : Dialect where
  header name := "package " ++ name ++ "\n"
  footer := ""
  opening id := "type " ++ id ++ " struct\x7b\n"
  closing := "\x7d\n"
  identifier := fieldIdentifier
  fieldText _ identifier type := "\t" ++ identifier ++ " " ++ type ++ "\n"
  primitive := goPrimitive
  mapOf element := "map[string]" ++ element
  sequenceOf element := "[]" ++ element
  holding type := type

end SchemaTypes.Dialect
