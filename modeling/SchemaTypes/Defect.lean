import SchemaTypes.Json.Failure

/-!
# Defects

Why no declarations come out of a document. Each defect names the place: a path of the text, or the
name under which the schema at fault was met.
-/

namespace SchemaTypes
set_option autoImplicit false

open Text (quoted)

/-- What is wrong with a document. -/
inductive Defect where
  | malformed (path message : String)
  | notStruct (id : String)
  | shapelessObject (id : String)
  | arrayWithoutItems (id : String)
  | unknownPrimitive (id kind format : String)
  | duplicate (id : String)
deriving DecidableEq, Repr

/-- The wording of a defect. -/
def Defect.message : Defect → String
  | .malformed path message => "failed to decode schema document at JSON path " ++ path ++ ": " ++ message
  | .notStruct id => "expected top-level schemas to be object types: " ++ quoted id
  | .shapelessObject id =>
    "unrecognized object type " ++ quoted id ++ ": neither additionalProperties nor properties is set"
  | .arrayWithoutItems id => "array schema " ++ quoted id ++ " has no items schema"
  | .unknownPrimitive id kind format =>
    "unknown (type, format) for " ++ quoted id ++ ": (" ++ quoted kind ++ ", " ++ quoted format ++ ")"
  | .duplicate id => "duplicate declaration name " ++ quoted id

/-- A refused text as a defect. -/
def Defect.ofFailure (text : Bytes) (failure : Json.Failure) : Defect :=
  .malformed failure.describePath (failure.describe text)

end SchemaTypes
