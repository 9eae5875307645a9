import SchemaTypes.Proofs.Json.Records
import SchemaTypes.Schema.Decoding

/-!
# What a document is read of

The document that a text holds is a function of the JSON value in it. That function opens its maps and records by
the same count of levels as the readers do, and what is proved of it holds for every spelling of the value.
-/

namespace SchemaTypes
set_option autoImplicit false

open Json (Value Outcome Reader FieldReader FieldMeaning)

/-- A field that is read by `f`, and put into the record by `set`. -/
def Json.FieldMeaning.of {α σ : Type} (name : String) (f : Value → Outcome α) (set : σ → α → σ) : FieldMeaning σ :=
  ⟨name, fun record v => f v >>= fun value => pure (set record value)⟩

theorem Json.FieldReader.follows_of {α σ : Type} {reader : Reader α} {f : Value → Outcome α}
    (follows : reader.Follows f) (name : String) (set : σ → α → σ) :
    FieldReader.Follows ⟨name, fun record => reader >>= fun value => pure (set record value)⟩
      (FieldMeaning.of name f set) :=
  ⟨rfl, fun record => follows.bind_pure (set record)⟩

namespace Schema

/-- The fields of a schema, given what its children and its properties are read of. -/
def meanings (child : Value → Outcome Schema) (properties : Value → Outcome (List (String × Schema))) :
    List (FieldMeaning Schema) := [
  .of "id" Value.asString fun s id => { s with id },
  .of "type" Value.asString fun s kind => { s with kind },
  .of "format" Value.asString fun s format => { s with format },
  .of "$ref" Value.asString fun s reference => { s with reference },
  .of "items" (Value.asOptional child) fun s items => { s with items },
  .of "additionalProperties" (Value.asOptional child) fun s additionalProperties => { s with additionalProperties },
  .of "properties" (Value.asOptional properties) fun s properties => { s with properties }]

theorem forall₂_meanings {child : Reader Schema} {properties : Reader (List (String × Schema))}
    {childOf : Value → Outcome Schema} {propertiesOf : Value → Outcome (List (String × Schema))}
    (children : child.Follows childOf) (entries : properties.Follows propertiesOf) :
    List.Forall₂ FieldReader.Follows (fields child properties) (meanings childOf propertiesOf) := by
  have text := Json.string_follows
  exact .cons (Json.FieldReader.follows_of text _ _) <| .cons (Json.FieldReader.follows_of text _ _) <|
    .cons (Json.FieldReader.follows_of text _ _) <| .cons (Json.FieldReader.follows_of text _ _) <|
    .cons (Json.FieldReader.follows_of children.optional _ _) <|
    .cons (Json.FieldReader.follows_of children.optional _ _) <|
    .cons (Json.FieldReader.follows_of entries.optional _ _) .nil

/-- The fields of a schema, when all of them stand in their order. -/
theorem asRecord_meanings (child : Value → Outcome Schema) (properties : Value → Outcome (List (String × Schema)))
    (id kind format reference items additionalProperties entries : Value) :
    Value.asRecord "Schema" (some (meanings child properties)) {} (.object [
      ("id", id), ("type", kind), ("format", format), ("$ref", reference), ("items", items),
      ("additionalProperties", additionalProperties), ("properties", entries)]) =
    ((id.asString.within (.key "id")) >>= fun id =>
      (kind.asString.within (.key "type")) >>= fun kind =>
      (format.asString.within (.key "format")) >>= fun format =>
      (reference.asString.within (.key "$ref")) >>= fun reference =>
      ((items.asOptional child).within (.key "items")) >>= fun items =>
      ((additionalProperties.asOptional child).within (.key "additionalProperties")) >>= fun additionalProperties =>
      ((entries.asOptional properties).within (.key "properties")) >>= fun entries =>
      pure ⟨id, kind, format, reference, items, additionalProperties, entries⟩) := by
  simp [Value.asRecord, meanings, Json.Partial.take, FieldMeaning.of, Json.Outcome.within_map]

mutual

/-- The schema a value stands for, where `levels` more maps and records may be opened. -/
def ofJson : (levels : Nat) → Value → Outcome Schema
  | 0 => Value.asRecord "Schema" none {}
  | levels + 1 => Value.asRecord "Schema" (some (meanings (ofJson levels) (entriesOfJson levels))) {}

/-- The schemas that the entries of a map stand for. -/
def entriesOfJson : (levels : Nat) → Value → Outcome (List (String × Schema))
  | 0 => Value.asMap none
  | levels + 1 => Value.asMap (some (ofJson levels))

end

/-- **A schema is read of each spelling of its value.** -/
theorem reader_follows : ∀ levels : Nat, (reader levels).Follows (ofJson levels)
  | 0 => Json.record_follows .none _ {}
  | 1 => Json.record_follows (.some (forall₂_meanings (reader_follows 0) (Json.map_follows .none))) _ {}
  | levels + 2 =>
    Json.record_follows (.some (forall₂_meanings (reader_follows (levels + 1))
      (Json.map_follows (.some (reader_follows levels))))) _ {}

end Schema

namespace Document

/-- The fields of a document, given what its schemas are read of. -/
def meanings (schemas : Value → Outcome (List (String × Schema))) : List (FieldMeaning Document) := [
  .of "name" Value.asString fun d name => { d with name },
  .of "schemas" schemas fun d schemas => { d with schemas }]

theorem forall₂_meanings {schemas : Reader (List (String × Schema))}
    {schemasOf : Value → Outcome (List (String × Schema))} (entries : schemas.Follows schemasOf) :
    List.Forall₂ FieldReader.Follows (fields schemas) (meanings schemasOf) :=
  .cons (Json.FieldReader.follows_of Json.string_follows _ _) <|
    .cons (Json.FieldReader.follows_of entries _ _) .nil

/-- The fields of a document, when both of them stand in their order. -/
theorem asRecord_meanings (schemas : Value → Outcome (List (String × Schema))) (name entries : Value) :
    Value.asRecord "Document" (some (meanings schemas)) {} (.object [("name", name), ("schemas", entries)]) =
    ((name.asString.within (.key "name")) >>= fun name =>
      ((schemas entries).within (.key "schemas")) >>= fun entries => pure ⟨name, entries⟩) := by
  simp [Value.asRecord, meanings, Json.Partial.take, FieldMeaning.of, Json.Outcome.within_map]

/-- The document a value stands for, where `levels` more maps and records may be opened. -/
def ofJson : (levels : Nat) → Value → Outcome Document
  | 0 => Value.asRecord "Document" none {}
  | levels + 1 => Value.asRecord "Document" (some (meanings (Schema.entriesOfJson levels))) {}

/-- **A document is read of each spelling of its value.** -/
theorem reader_follows : ∀ levels : Nat, (reader levels).Follows (ofJson levels)
  | 0 => Json.record_follows .none _ {}
  | 1 => Json.record_follows (.some (forall₂_meanings (Json.map_follows .none))) _ {}
  | levels + 2 =>
    Json.record_follows (.some (forall₂_meanings (Json.map_follows (.some (Schema.reader_follows levels))))) _ {}

end Document

end SchemaTypes
