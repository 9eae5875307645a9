import SchemaTypes.Text.Alphanumeric
import SchemaTypes.Text.Uppercase

/-!
# Names of declarations and fields

A declaration lifted out of another one is named by its path: the name it was found under, followed
by the exported form of each step. A field name is repaired where it could not be an identifier.
-/

namespace SchemaTypes
set_option autoImplicit false

open Text

/-- The exported form of a name: its first character in upper case, the rest untouched. -/
def exported (name : String) : String :=
  match name.toList with
  | [] => ""
  | first :: rest => String.ofList (uppercase first ++ rest)

/-- The name of what stands at `step` below `path`. -/
def qualified (path step : String) : String :=
  path ++ exported step

/-- A character of an identifier; any other one is replaced by an underscore. -/
def identifierChar (c : Char) : Char :=
  if isAlphanumeric c || c == '_' then c else '_'

/-- Whether the characters cannot stand as an identifier: underscores only, or an ASCII digit first. -/
def needsLead (chars : List Char) : Bool :=
  chars.all (· == '_') || chars.head?.any Char.isDigit

/-- The field identifier for a name: foreign characters become underscores, and an `X` leads where
the result is empty, begins with an ASCII digit or has nothing but underscores. -/
def fieldIdentifier (name : String) : String :=
  let chars := name.toList.map identifierChar
  String.ofList (if needsLead chars then 'X' :: chars else chars)

@[simp] theorem exported_empty : exported "" = "" := rfl

/-- An empty step leaves the path as it is. -/
@[simp] theorem qualified_empty (path : String) : qualified path "" = path := by
  simp [qualified]

end SchemaTypes
