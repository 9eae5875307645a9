import SchemaTypes.Dialect
import SchemaTypes.Text.Quoted

/-!
# Structs of Rust

A module of structs that serialize under the keys of the document. Every field is optional, since data
may omit any of them, and one that holds another declaration is boxed, so that recursive structs have a
size.
-/

namespace SchemaTypes.Dialect
set_option autoImplicit false

/-- The names of the primitive types in Rust. -/
def rustPrimitive : Primitive → String
  | .bool => "bool"
  | .int32 => "i32"
  | .uint32 => "u32"
  | .float64 => "f64"
  | .float32 => "f32"
  | .string => "String"
  | .bytes => "Vec<u8>"
  | .int64 => "i64"
  | .uint64 => "u64"

/-- Keywords that an identifier of a field could be: capitalized ones, and those that stay as they are
because their first character has no upper-case form. -/
def rustKeywords : List String := [
  "Self", "as", "async", "await", "break", "const", "continue", "crate", "dyn", "else", "enum",
  "extern", "false", "fn", "for", "gen", "if", "impl", "in", "let", "loop", "match", "mod", "move",
  "mut", "pub", "ref", "return", "self", "static", "struct", "super", "trait", "true", "type",
  "unsafe", "use", "where", "while"]

/-- The identifier of a field, set apart from keywords by a trailing underscore. -/
def rustIdentifier (name : String) : String :=
  let identifier := fieldIdentifier name
  if identifier ∈ rustKeywords then identifier ++ "_" else identifier

/-- Structs of a Rust module that serialize. -/
def rust : Dialect where
  header name := "pub mod " ++ name ++ " \x7b\n"
  footer := "\x7d\n"
  opening id :=
    "#[derive(Debug, Clone, PartialEq, serde::Serialize, serde::Deserialize)]\n"
      ++ "#[allow(non_snake_case)]\n" ++ "pub struct " ++ id ++ " \x7b\n"
  closing := "\x7d\n"
  identifier := rustIdentifier
  fieldText key identifier type :=
    "#[serde(rename = " ++ Text.quoted key
      ++ ", default, skip_serializing_if = \"Option::is_none\")]\n"
      ++ "pub " ++ identifier ++ ": Option<" ++ type ++ ">,\n"
  primitive := rustPrimitive
  mapOf element := "std::collections::BTreeMap<String, " ++ element ++ ">"
  sequenceOf element := "Vec<" ++ element ++ ">"
  holding type := "Box<" ++ type ++ ">"

end SchemaTypes.Dialect
