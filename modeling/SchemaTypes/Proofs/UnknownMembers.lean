import SchemaTypes.Proofs.Json.Compact
import SchemaTypes.Proofs.Meaning

/-!
# Unknown members

A record passes over the members that it has no field for, whatever stands in them. A text therefore holds the
same document when they are taken out everywhere, at any depth; the names in a map are no fields and stay.
-/

namespace SchemaTypes
set_option autoImplicit false

open Json (Value Outcome FieldMeaning Partial)

/-- What a value is read as. -/
inductive Role where
  | document
  | schema
  | schemas
  | text
deriving DecidableEq, Repr

namespace Role

/-- The fields of a record, with the roles of their values in the order of the fields. -/
def fields : Role → List (String × Role)
  | document => [("name", text), ("schemas", schemas)]
  | schema => [("id", text), ("type", text), ("format", text), ("$ref", text), ("items", schema),
      ("additionalProperties", schema), ("properties", schemas)]
  | schemas => []
  | text => []

/-- The role of the value under a key; there is none under a key that is unknown. -/
def member? : Role → String → Option Role
  | schemas, _ => some schema
  | role, key => role.fields.lookup key

/-- The role of an element of a list, by its position. -/
def element (role : Role) (position : Nat) : Role :=
  (role.fields[position]?.map Prod.snd).getD text

end Role

namespace Json.Value

mutual

/-- The value without the members that are unknown where a document or a schema is read. -/
def strip : Role → Value → Value
  | .text, v => v
  | role, .object members => .object (stripMembers role members)
  | role, .list elements => .list (stripElements role 0 elements)
  | _, v => v

def stripMembers : Role → List (String × Value) → List (String × Value)
  | _, [] => []
  | role, member :: more => stripMember role member ++ stripMembers role more

/-- The member as a list, which is empty if the key is unknown. -/
def stripMember : Role → String × Value → List (String × Value)
  | role, (key, v) =>
    match role.member? key with
    | none => []
    | some inner => [(key, strip inner v)]

def stripElements : Role → Nat → List Value → List Value
  | _, _, [] => []
  | role, position, v :: more => strip (role.element position) v :: stripElements role (position + 1) more

end

@[simp] theorem strip_text (v : Value) : v.strip .text = v := by
  rw [strip]

@[simp] theorem strip_object {role : Role} (record : role ≠ .text) (members : List (String × Value)) :
    (object members).strip role = .object (stripMembers role members) := by
  rw [strip]
  exact record

@[simp] theorem strip_list {role : Role} (record : role ≠ .text) (elements : List Value) :
    (list elements).strip role = .list (stripElements role 0 elements) := by
  rw [strip]
  exact record

end Json.Value

section keeping

variable {α σ : Type} {role : Role}

/-- A field of the role's record, which is read the same when unknown members are taken out of its value. -/
def Json.FieldMeaning.Keeps (field : FieldMeaning σ) (named : String × Role) : Prop :=
  field.name = named.1 ∧ ∀ record v, field.read record (Value.strip named.2 v) = field.read record v

theorem Json.FieldMeaning.Keeps.of {f : Value → Outcome α} (inner : Role) (keeps : ∀ v : Value, f (v.strip inner) = f v)
    (name : String) (set : σ → α → σ) : (FieldMeaning.of name f set).Keeps (name, inner) :=
  ⟨rfl, fun record v => congrArg (· >>= fun value => pure (set record value)) (keeps v)⟩

variable {fields : List (FieldMeaning σ)} {named : List (String × Role)}

/-- A field is found under a name if and only if the name has a role. -/
theorem find?_keeps (keeps : List.Forall₂ FieldMeaning.Keeps fields named) (name : String) :
    Option.Rel (fun field inner => field.Keeps (name, inner)) (fields.find? (·.name == name)) (named.lookup name) := by
  induction keeps with
  | nil => exact .none
  | @cons field other _ _ first _ ih =>
    obtain ⟨key, inner⟩ := other
    have same : field.name = key := first.1
    rw [List.find?_cons, List.lookup_cons, same]
    by_cases here : key = name
    · subst here
      rw [beq_self_eq_true]
      exact .some first
    · rw [beq_false_of_ne here, beq_false_of_ne (Ne.symm here)]
      exact ih

/-- A member that is taken out is passed over, and the others are taken the same. -/
theorem foldlM_stripMember (keeps : List.Forall₂ FieldMeaning.Keeps fields role.fields)
    (record : ∀ key, role.member? key = role.fields.lookup key) (sofar : Partial σ) (member : String × Value) :
    (Value.stripMember role member).foldlM (Partial.take fields) sofar = Partial.take fields sofar member := by
  obtain ⟨key, v⟩ := member
  have found := find?_keeps keeps key
  rw [Value.stripMember, record key]
  generalize role.fields.lookup key = inner at found ⊢
  generalize field : fields.find? (·.name == key) = field? at found
  cases found with
  | none =>
    have unknown : fields.any (·.name == key) = false := by
      rw [List.any_eq_false]
      exact List.find?_eq_none.1 field
    rw [List.foldlM_nil, Partial.take, unknown, field]
    rfl
  | some kept =>
    rw [List.foldlM_cons, Partial.take, Partial.take, field]
    simp only [kept.2, List.foldlM_nil, bind_pure]

theorem foldlM_stripMembers (keeps : List.Forall₂ FieldMeaning.Keeps fields role.fields)
    (record : ∀ key, role.member? key = role.fields.lookup key) (sofar : Partial σ)
    (members : List (String × Value)) :
    (Value.stripMembers role members).foldlM (Partial.take fields) sofar =
      members.foldlM (Partial.take fields) sofar := by
  induction members generalizing sofar with
  | nil => rfl
  | cons member more ih =>
    rw [Value.stripMembers, List.foldlM_append, foldlM_stripMember keeps record, List.foldlM_cons]
    simp only [ih]

/-- The elements of a list are taken the same by position. -/
theorem takeElements_stripElements {position : Nat}
    (keeps : List.Forall₂ FieldMeaning.Keeps fields (role.fields.drop position)) (vs : List Value) (record : σ) :
    Json.takeElements position fields (Value.stripElements role position vs) record =
      Json.takeElements position fields vs record := by
  induction vs generalizing position fields record with
  | nil => rfl
  | cons v vs ih =>
    rw [Value.stripElements]
    generalize rest : role.fields.drop position = named at keeps
    cases keeps with
    | nil => rfl
    | @cons field other _ _ first more =>
      have here : role.element position = other.2 := by
        rw [Role.element, ← List.head?_drop, rest]
        rfl
      have behind := congrArg List.tail rest
      rw [List.tail_drop, List.tail_cons] at behind
      rw [Json.takeElements, Json.takeElements, here, first.2]
      exact bind_congr fun record => ih (behind ▸ more) record

/-- A record is read the same without its unknown members. -/
theorem asRecord_strip (role : Role) {fields : Option (List (FieldMeaning σ))} (isRecord : role ≠ .text)
    (keeps : ∀ fields' ∈ fields, List.Forall₂ FieldMeaning.Keeps fields' role.fields)
    (record : ∀ key, role.member? key = role.fields.lookup key) (name : String) (empty : σ) (v : Value) :
    (v.strip role).asRecord name fields empty = v.asRecord name fields empty := by
  cases v with
  | object members =>
    rw [Value.strip_object isRecord]
    cases fields with
    | none => rfl
    | some fields => rw [Value.asRecord, Value.asRecord, foldlM_stripMembers (keeps _ rfl) record]
  | list elements =>
    rw [Value.strip_list isRecord]
    cases fields with
    | none => rfl
    | some fields => exact takeElements_stripElements (keeps _ rfl) elements empty
  | null | boolean | number | string => cases role <;> rfl

/-- An optional value is read the same as its value. -/
theorem asOptional_strip {f : Value → Outcome α} (keeps : ∀ v : Value, f (v.strip role) = f v) (v : Value) :
    (v.strip role).asOptional f = v.asOptional f := by
  have kept := keeps v
  cases v with
  | object members => cases role <;> exact congrArg (· >>= fun value => pure (some value)) kept
  | list elements => cases role <;> exact congrArg (· >>= fun value => pure (some value)) kept
  | null | boolean | number | string => cases role <;> rfl

/-- The keys of a map all stay, and its entries are read the same. -/
theorem asMap_strip {f : Option (Value → Outcome α)}
    (keeps : ∀ g ∈ f, ∀ v : Value, g (v.strip .schema) = g v) (v : Value) :
    (v.strip .schemas).asMap f = v.asMap f := by
  cases v with
  | object members =>
    rw [Value.strip_object (show Role.schemas ≠ .text by decide)]
    cases f with
    | none => rfl
    | some f =>
      rw [Value.asMap, Value.asMap]
      -- Whatever has been assigned before.
      generalize ([] : List (String × α)) = sofar
      induction members generalizing sofar with
      | nil => rfl
      | cons member more ih =>
        obtain ⟨key, v⟩ := member
        have first : Value.asMap.assignTo f sofar (key, v.strip .schema) = Value.asMap.assignTo f sofar (key, v) := by
          rw [Value.asMap.assignTo, Value.asMap.assignTo, keeps f rfl]
        rw [Value.stripMembers, List.foldlM_append, Value.stripMember]
        simp only [Role.member?, List.foldlM_cons, List.foldlM_nil, bind_pure, first, ih]
  | list elements => rfl
  | null | boolean | number | string => rfl

end keeping

namespace Schema

theorem keeps_meanings {child : Value → Outcome Schema} {properties : Value → Outcome (List (String × Schema))}
    (children : ∀ v : Value, child (v.strip .schema) = child v)
    (entries : ∀ v : Value, properties (v.strip .schemas) = properties v) :
    List.Forall₂ FieldMeaning.Keeps (meanings child properties) Role.schema.fields := by
  have text (v : Value) : (v.strip .text).asString = v.asString := by rw [Value.strip_text]
  have optionals := asOptional_strip children
  exact .cons (.of _ text _ _) <| .cons (.of _ text _ _) <| .cons (.of _ text _ _) <|
    .cons (.of _ text _ _) <| .cons (.of _ optionals _ _) <| .cons (.of _ optionals _ _) <|
    .cons (.of _ (asOptional_strip entries) _ _) .nil

mutual

/-- A schema is read the same without unknown members, whatever levels are left. -/
theorem ofJson_strip : ∀ (levels : Nat) (v : Value), ofJson levels (v.strip .schema) = ofJson levels v
  | 0, v => by
    rw [ofJson]
    exact asRecord_strip .schema (by decide) (by simp) (fun _ => rfl) _ _ v
  | levels + 1, v => by
    have keeps := keeps_meanings (ofJson_strip levels) (entriesOfJson_strip levels)
    rw [ofJson]
    exact asRecord_strip .schema (by decide) (by simpa using keeps) (fun _ => rfl) _ _ v

theorem entriesOfJson_strip : ∀ (levels : Nat) (v : Value),
    entriesOfJson levels (v.strip .schemas) = entriesOfJson levels v
  | 0, v => by
    rw [entriesOfJson]
    exact asMap_strip (by simp) v
  | levels + 1, v => by
    rw [entriesOfJson]
    exact asMap_strip (by simpa using ofJson_strip levels) v

end

end Schema

namespace Document

theorem keeps_meanings {schemas : Value → Outcome (List (String × Schema))}
    (entries : ∀ v : Value, schemas (v.strip .schemas) = schemas v) :
    List.Forall₂ FieldMeaning.Keeps (meanings schemas) Role.document.fields := by
  have text (v : Value) : (v.strip .text).asString = v.asString := by rw [Value.strip_text]
  exact .cons (.of _ text _ _) <| .cons (.of _ entries _ _) .nil

/-- A document is read the same without unknown members. -/
theorem ofJson_strip (levels : Nat) (v : Value) : ofJson levels (v.strip .document) = ofJson levels v := by
  cases levels with
  | zero =>
    rw [ofJson]
    exact asRecord_strip .document (by decide) (by simp) (fun _ => rfl) _ _ v
  | succ levels =>
    have keeps := keeps_meanings (Schema.entriesOfJson_strip levels)
    rw [ofJson]
    exact asRecord_strip .document (by decide) (by simpa using keeps) (fun _ => rfl) _ _ v

end Document

/-- **Unknown members are ignored everywhere.** A text holds a document if and only if the text without the unknown
members does, whatever these members hold, and however both texts are spelled. -/
theorem decode_strip {v : Value} {text stripped : Bytes} (writes : Json.Writes v text)
    (writesStripped : Json.Writes (v.strip .document) stripped) (doc : Document) :
    Document.decode text = .ok doc ↔ Document.decode stripped = .ok doc := by
  have read : Document.decode text = .ok doc ↔ Document.ofJson maxLevels v = .ok doc :=
    (Document.reader_follows maxLevels).whole_eq_ok_iff writes
  have readStripped : Document.decode stripped = .ok doc ↔ Document.ofJson maxLevels (v.strip .document) = .ok doc :=
    (Document.reader_follows maxLevels).whole_eq_ok_iff writesStripped
  rw [Document.ofJson_strip] at readStripped
  exact read.trans readStripped.symm

/-- Objects inside each other. -/
def boxes : Nat → Value
  | 0 => .null
  | depth + 1 => .object [("name", boxes depth)]

/-- A document with members that are unknown beside its fields and beside those of a schema, one of them nested
deeper than a document may be, and with a property whose name is a field of no record. -/
def annotated : Value := .object [
  ("kind", .list [boxes 200]),
  ("name", .string "store"),
  ("schemas", .object [("Shelf", .object [
    ("description", .object [("type", .number ⟨true, 0, [5], none⟩)]),
    ("type", .string "object"),
    ("properties", .object [("description", .object [("type", .string "string"), ("readOnly", .boolean true)])])])])]

theorem annotated_decode :
    Document.decode (Utf8.encode annotated.compact.toList) = .ok ⟨"store", [("Shelf",
      { kind := "object", properties := some [("description", { kind := "string" })] })]⟩ := by
  have stripped : Document.decode (Utf8.encode (annotated.strip .document).compact.toList) = .ok ⟨"store", [("Shelf",
      { kind := "object", properties := some [("description", { kind := "string" })] })]⟩ :=
    ((Document.reader_follows maxLevels).whole_eq_ok_iff (Json.writes_compact _)).2 rfl
  exact (decode_strip (Json.writes_compact annotated) (Json.writes_compact _) _).2 stripped

end SchemaTypes
