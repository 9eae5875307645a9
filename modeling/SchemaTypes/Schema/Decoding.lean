import SchemaTypes.Json.Typed
import SchemaTypes.Schema

/-!
# Decoding documents

A document and its schemas are records of JSON. Unknown fields are skipped, missing ones are absent,
and `null` stands for an absent child. A text may open 127 maps and records inside each other.
-/

namespace SchemaTypes
set_option autoImplicit false

open Json (Reader FieldReader)

namespace Schema

/-- The fields of a schema, given readers for a child and for the properties. -/
def fields (child : Reader Schema) (properties : Reader (List (String × Schema))) :
    List (FieldReader Schema) := [
  ⟨"id", fun s => do pure { s with id := ← Json.string }⟩,
  ⟨"type", fun s => do pure { s with kind := ← Json.string }⟩,
  ⟨"format", fun s => do pure { s with format := ← Json.string }⟩,
  ⟨"$ref", fun s => do pure { s with reference := ← Json.string }⟩,
  ⟨"items", fun s => do pure { s with items := ← Json.optional child }⟩,
  ⟨"additionalProperties", fun s => do pure { s with additionalProperties := ← Json.optional child }⟩,
  ⟨"properties", fun s => do pure { s with properties := ← Json.optional properties }⟩]

/-- Reads a schema where `levels` more maps and records may be opened. -/
def reader : (levels : Nat) → Reader Schema
  | 0, text => Json.record "Schema" none {} text
  | 1, text => Json.record "Schema" (some (fields (reader 0) (Json.map none))) {} text
  | levels + 2, text =>
    Json.record "Schema" (some (fields (reader (levels + 1)) (Json.map (some (reader levels))))) {} text

end Schema

namespace Document

/-- The fields of a document, given a reader for its schemas. -/
def fields (schemas : Reader (List (String × Schema))) : List (FieldReader Document) := [
  ⟨"name", fun d => do pure { d with name := ← Json.string }⟩,
  ⟨"schemas", fun d => do pure { d with schemas := ← schemas }⟩]

/-- Reads a document where `levels` more maps and records may be opened. -/
def reader : (levels : Nat) → Reader Document
  | 0 => Json.record "Document" none {}
  | 1 => Json.record "Document" (some (fields (Json.map none))) {}
  | levels + 2 => Json.record "Document" (some (fields (Json.map (some (Schema.reader levels))))) {}

end Document

/-- How many maps and records may be open at once. -/
def maxLevels : Nat := 127

/-- The document a text holds. -/
def Document.decode (text : Bytes) : Except Json.Failure Document :=
  Json.whole (Document.reader maxLevels) text

/-- The schema a text holds. -/
def Schema.decode (text : Bytes) : Except Json.Failure Schema :=
  Json.whole (Schema.reader maxLevels) text

end SchemaTypes
