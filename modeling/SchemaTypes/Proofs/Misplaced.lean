import SchemaTypes.Proofs.RoundTrip

/-!
# A value in the wrong place

Where a text that holds a document is changed in one place, so that a boolean stands there, it is refused with the
keys that lead to that place and with what should stand there. The places are those of the fields, whether a value
is present or absent there, and those of the entries of a map.
-/

namespace SchemaTypes
set_option autoImplicit false

open Json (Value Outcome)

/-- The value with `new` in the place that the keys of the path lead to. -/
def Json.Value.replace : Value → (path : List String) → (new : Value) → Value
  | _, [], new => new
  | .object members, key :: path, new =>
    .object (members.map fun member => if member.1 = key then (key, member.2.replace path new) else member)
  | v, _ :: _, _ => v

/-- A place in the text of a schema: the keys that lead to it, and what is expected there. -/
inductive Schema.Place : Schema → List String → Json.Expected → Prop where
  | here (s : Schema) : s.Place [] (.record "Schema")
  | text (s : Schema) {name : String} (field : name ∈ ["id", "type", "format", "$ref"]) : s.Place [name] .string
  | noItems {s : Schema} (absent : s.items = none) : s.Place ["items"] (.record "Schema")
  | items {s child : Schema} {path : List String} {expected : Json.Expected} (present : s.items = some child)
      (inside : child.Place path expected) : s.Place ("items" :: path) expected
  | noAdditionalProperties {s : Schema} (absent : s.additionalProperties = none) :
    s.Place ["additionalProperties"] (.record "Schema")
  | additionalProperties {s child : Schema} {path : List String} {expected : Json.Expected}
      (present : s.additionalProperties = some child) (inside : child.Place path expected) :
    s.Place ("additionalProperties" :: path) expected
  | properties (s : Schema) : s.Place ["properties"] .map
  | property {s child : Schema} {entries : List (String × Schema)} {key : String} {path : List String}
      {expected : Json.Expected} (present : s.properties = some entries) (mem : (key, child) ∈ entries)
      (inside : child.Place path expected) : s.Place ("properties" :: key :: path) expected

/-- A place in the text of a document. -/
inductive Document.Place : Document → List String → Json.Expected → Prop where
  | name (doc : Document) : doc.Place ["name"] .string
  | schemas (doc : Document) : doc.Place ["schemas"] .map
  | schema {doc : Document} {key : String} {s : Schema} {path : List String} {expected : Json.Expected}
      (mem : (key, s) ∈ doc.schemas) (inside : s.Place path expected) :
    doc.Place ("schemas" :: key :: path) expected

/-- The outcome of a value with the cause at the end of the path. -/
def Json.refusedAt {α : Type} (cause : Json.Cause) (path : List String) : Outcome α :=
  .error (some ⟨cause, path.map .key⟩)

namespace Schema

/-- The entries of a map before the one that is refused are read, since their keys are others. -/
theorem foldlM_replace {entries : List (String × Schema)} {key : String} {child : Schema} {path : List String}
    {new : Value} {cause : Json.Cause} {levels : Nat} (sofar : List (String × Schema))
    (keys : (entries.map (·.1)).Nodup) (children : ∀ entry ∈ entries, entry.2.DistinctKeys)
    (shallow : Value.membersNesting (entriesToJson entries) ≤ levels) (mem : (key, child) ∈ entries)
    (refused : child.toJson.nesting ≤ levels →
      ofJson levels (child.toJson.replace path new) = Json.refusedAt cause path) :
    ((entriesToJson entries).map fun member =>
        if member.1 = key then (key, member.2.replace path new) else member).foldlM
      (Value.asMap.assignTo (ofJson levels)) sofar = Json.refusedAt cause (key :: path) := by
  induction entries generalizing sofar with
  | nil => cases mem
  | cons entry more ih =>
    obtain ⟨name, s⟩ := entry
    obtain ⟨new, distinct⟩ := List.nodup_cons.1 keys
    obtain ⟨first, rest⟩ := Nat.max_le.1 shallow
    rw [entriesToJson, entryToJson, List.map_cons, List.foldlM_cons]
    rcases List.mem_cons.1 mem with same | mem
    · cases same
      rw [if_pos rfl, Value.asMap.assignTo, refused first]
      rfl
    · have other : name ≠ key := by
        rintro rfl
        exact new (List.mem_map.2 ⟨_, mem, rfl⟩)
      have read := ((children _ List.mem_cons_self).fits levels).reads first
      rw [if_neg other, Value.asMap.assignTo, read]
      exact ih _ distinct (fun entry mem => children entry (List.mem_cons_of_mem _ mem)) rest mem

/-- A map whose entry under `key` is refused is refused with that key. -/
theorem entriesOfJson_replace {entries : List (String × Schema)} {key : String} {child : Schema} {new : Value}
    {path : List String} {cause : Json.Cause} {levels : Nat} (keys : (entries.map (·.1)).Nodup)
    (children : ∀ entry ∈ entries, entry.2.DistinctKeys)
    (shallow : (Value.object (entriesToJson entries)).nesting ≤ levels) (mem : (key, child) ∈ entries)
    (refused : ∀ levels, child.toJson.nesting ≤ levels →
      ofJson levels (child.toJson.replace path new) = Json.refusedAt cause path) :
    entriesOfJson levels ((Value.object (entriesToJson entries)).replace (key :: path) new) =
      Json.refusedAt cause (key :: path) := by
  rw [Value.nesting] at shallow
  cases levels with
  | zero => omega
  | succ levels =>
    rw [entriesOfJson, Value.replace, Value.asMap]
    exact foldlM_replace [] keys children (by omega) mem (refused levels)

section fields

variable {levels : Nat} {cause : Json.Cause} {path : List String} {id kind format reference : String}
  {items additionalProperties properties : Value}

theorem asOptional_refused {α : Type} {f : Value → Outcome α} {v : Value}
    (refused : f v = Json.refusedAt cause path) (present : v ≠ .null) :
    v.asOptional f = Json.refusedAt cause path := by
  cases v with
  | null => exact absurd rfl present
  | _ =>
    rw [Value.asOptional, refused]
    · rfl
    · exact present

theorem ofJson_items (refused : items.asOptional (ofJson levels) = Json.refusedAt cause path) :
    ofJson (levels + 1) (.object [("id", .string id), ("type", .string kind), ("format", .string format),
      ("$ref", .string reference), ("items", items), ("additionalProperties", additionalProperties),
      ("properties", properties)]) = Json.refusedAt cause ("items" :: path) := by
  rw [ofJson, asRecord_meanings, refused]
  rfl

theorem ofJson_additionalProperties {first : Option Schema} (read : items.asOptional (ofJson levels) = .ok first)
    (refused : additionalProperties.asOptional (ofJson levels) = Json.refusedAt cause path) :
    ofJson (levels + 1) (.object [("id", .string id), ("type", .string kind), ("format", .string format),
      ("$ref", .string reference), ("items", items), ("additionalProperties", additionalProperties),
      ("properties", properties)]) = Json.refusedAt cause ("additionalProperties" :: path) := by
  rw [ofJson, asRecord_meanings, read, refused]
  rfl

theorem ofJson_properties {first second : Option Schema} (read : items.asOptional (ofJson levels) = .ok first)
    (read' : additionalProperties.asOptional (ofJson levels) = .ok second)
    (refused : properties.asOptional (entriesOfJson levels) = Json.refusedAt cause path) :
    ofJson (levels + 1) (.object [("id", .string id), ("type", .string kind), ("format", .string format),
      ("$ref", .string reference), ("items", items), ("additionalProperties", additionalProperties),
      ("properties", properties)]) = Json.refusedAt cause ("properties" :: path) := by
  rw [ofJson, asRecord_meanings, read, read', refused]
  rfl

end fields

/-- A schema takes a level for itself, and leaves the others for its children. -/
theorem nesting_children {s : Schema} {levels : Nat} (shallow : s.toJson.nesting ≤ levels) :
    ∃ fewer, levels = fewer + 1 ∧ (childToJson s.items).nesting ≤ fewer ∧
      (childToJson s.additionalProperties).nesting ≤ fewer ∧ (propertiesToJson s.properties).nesting ≤ fewer := by
  obtain ⟨id, kind, format, reference, items, additionalProperties, properties⟩ := s
  simp only [toJson, Value.nesting, Value.membersNesting, Value.memberNesting] at shallow ⊢
  exact ⟨levels - 1, by omega, by omega, by omega, by omega⟩

theorem DistinctKeys.reads_child {child : Option Schema} {levels : Nat} (distinct : ∀ s ∈ child, s.DistinctKeys)
    (shallow : (childToJson child).nesting ≤ levels) : (childToJson child).asOptional (ofJson levels) = .ok child :=
  (fits_child fun s here => (distinct s here).fits levels).reads shallow

/-- Whatever replaces something in a child, there is no `null`. -/
theorem replace_ne_null (s : Schema) (path : List String) (b : Bool) : s.toJson.replace path (.boolean b) ≠ .null := by
  obtain ⟨_, _, _, _, _, _, _⟩ := s
  cases path <;> nofun

/-- **A boolean in a place of a schema is refused with the keys that lead there.** -/
theorem Place.refused {s : Schema} {path : List String} {expected : Json.Expected} (place : s.Place path expected)
    (distinct : s.DistinctKeys) {levels : Nat} (shallow : s.toJson.nesting ≤ levels) (b : Bool) :
    ofJson levels (s.toJson.replace path (.boolean b)) =
      Json.refusedAt (.wrongKind (.boolean b) expected) path := by
  have misfit (levels : Nat) :
      ofJson levels (.boolean b) = Json.refusedAt (.wrongKind (.boolean b) (.record "Schema")) [] := by
    cases levels <;> rfl
  have misfitMap (levels : Nat) :
      entriesOfJson levels (.boolean b) = Json.refusedAt (.wrongKind (.boolean b) .map) [] := by
    cases levels <;> rfl
  -- On the place. The fields before it are read, since the schema as a whole is nested no deeper than the levels.
  induction place generalizing levels with
  | here s =>
    rw [Value.replace]
    exact misfit levels
  | @text s name field =>
    obtain ⟨levels, rfl, -⟩ := nesting_children shallow
    obtain ⟨id, kind, format, reference, items, additionalProperties, properties⟩ := s
    simp only [List.mem_cons, List.not_mem_nil, or_false] at field
    rcases field with rfl | rfl | rfl | rfl <;> exact asRecord_meanings ..
  | @noItems s absent =>
    obtain ⟨levels, rfl, -⟩ := nesting_children shallow
    obtain ⟨id, kind, format, reference, items, additionalProperties, properties⟩ := s
    exact ofJson_items (asOptional_refused (misfit levels) nofun)
  | @items s child path expected present inside ih =>
    obtain ⟨levels, rfl, shallowItems, -⟩ := nesting_children shallow
    obtain ⟨id, kind, format, reference, items, additionalProperties, properties⟩ := s
    cases present
    cases distinct with
    | intro items =>
      have refused := ih (items child rfl) shallowItems
      exact ofJson_items (asOptional_refused refused (replace_ne_null child path b))
  | @noAdditionalProperties s absent =>
    obtain ⟨levels, rfl, shallowItems, -⟩ := nesting_children shallow
    obtain ⟨id, kind, format, reference, items, additionalProperties, properties⟩ := s
    cases distinct with
    | intro items =>
      have read := DistinctKeys.reads_child items shallowItems
      exact ofJson_additionalProperties read (asOptional_refused (misfit levels) nofun)
  | @additionalProperties s child path expected present inside ih =>
    obtain ⟨levels, rfl, shallowItems, shallowAdditional, -⟩ := nesting_children shallow
    obtain ⟨id, kind, format, reference, items, additionalProperties, properties⟩ := s
    cases present
    cases distinct with
    | intro items additionalProperties =>
      have read := DistinctKeys.reads_child items shallowItems
      have refused := ih (additionalProperties child rfl) shallowAdditional
      exact ofJson_additionalProperties read (asOptional_refused refused (replace_ne_null child path b))
  | properties s =>
    obtain ⟨levels, rfl, shallowItems, shallowAdditional, -⟩ := nesting_children shallow
    obtain ⟨id, kind, format, reference, items, additionalProperties, properties⟩ := s
    cases distinct with
    | intro items additionalProperties =>
      have read := DistinctKeys.reads_child items shallowItems
      have read' := DistinctKeys.reads_child additionalProperties shallowAdditional
      exact ofJson_properties read read' (asOptional_refused (misfitMap levels) nofun)
  | @property s child entries key path expected present mem inside ih =>
    obtain ⟨levels, rfl, shallowItems, shallowAdditional, shallowEntries⟩ := nesting_children shallow
    obtain ⟨id, kind, format, reference, items, additionalProperties, properties⟩ := s
    cases present
    cases distinct with
    | intro items additionalProperties keys properties =>
      have read := DistinctKeys.reads_child items shallowItems
      have read' := DistinctKeys.reads_child additionalProperties shallowAdditional
      have refused := entriesOfJson_replace (keys entries rfl) (properties entries rfl) shallowEntries mem
        fun levels shallow => ih (properties entries rfl _ mem) shallow
      exact ofJson_properties read read' (asOptional_refused refused nofun)

end Schema

theorem Document.ofJson_schemas {levels : Nat} {cause : Json.Cause} {path : List String} {name : String}
    {schemas : Value} (refused : Schema.entriesOfJson levels schemas = Json.refusedAt cause path) :
    ofJson (levels + 1) (.object [("name", .string name), ("schemas", schemas)]) =
      Json.refusedAt cause ("schemas" :: path) := by
  rw [ofJson, asRecord_meanings, refused]
  rfl

/-- **A boolean in a place of a document is refused with the keys that lead there.** -/
theorem Document.Place.refused {doc : Document} {path : List String} {expected : Json.Expected}
    (place : doc.Place path expected) (distinct : doc.DistinctKeys) {levels : Nat}
    (shallow : doc.toJson.nesting ≤ levels) (b : Bool) :
    ofJson levels (doc.toJson.replace path (.boolean b)) =
      Json.refusedAt (.wrongKind (.boolean b) expected) path := by
  obtain ⟨levels, rfl, shallowEntries⟩ : ∃ fewer, levels = fewer + 1 ∧
      (Value.object (Schema.entriesToJson doc.schemas)).nesting ≤ fewer := by
    rw [toJson, Value.nesting, Value.membersNesting, Value.membersNesting, Value.memberNesting,
      Value.memberNesting] at shallow
    exact ⟨levels - 1, by omega, by omega⟩
  cases place with
  | name =>
    rw [ofJson]
    exact asRecord_meanings _ _ _
  | schemas =>
    have misfit : Schema.entriesOfJson levels (.boolean b) = Json.refusedAt (.wrongKind (.boolean b) .map) [] := by
      cases levels <;> rfl
    exact ofJson_schemas misfit
  | @schema key s path _ mem inside =>
    have refused := Schema.entriesOfJson_replace distinct.keys distinct.schemas shallowEntries mem
      fun levels shallow => inside.refused (distinct.schemas _ mem) shallow b
    exact ofJson_schemas refused

theorem Document.Place.ne_nil {doc : Document} {path : List String} {expected : Json.Expected}
    (place : doc.Place path expected) : path ≠ [] := by
  cases place <;> nofun

/-- Keys are told with points between them. -/
theorem Json.Step.describeAfter_keys {path : List String} (some_ : path ≠ []) (before : String) :
    Json.Step.describeAfter before (path.map .key) = before ++ ".".intercalate path := by
  induction path generalizing before with
  | nil => exact absurd rfl some_
  | cons key more ih =>
    rw [List.map_cons, describeAfter]
    cases more with
    | nil => simp [describeAfter]
    | cons next more => rw [ih nofun, String.intercalate_cons_cons, String.append_assoc, String.append_assoc]

theorem Json.Failure.describePath_keys {failure : Json.Failure} {path : List String} (some_ : path ≠ [])
    (keys : failure.path = path.map .key) : failure.describePath = ".".intercalate path := by
  have visible : failure.path.isEmpty = false := by simpa [keys] using some_
  rw [describePath, visible, if_neg Bool.false_ne_true, keys, Json.Step.describeAfter_keys some_, String.empty_append]

/-- The wording of a boolean in the wrong place. -/
theorem Json.Cause.message_boolean (b : Bool) (expected : Json.Expected) :
    (Json.Cause.wrongKind (.boolean b) expected).message =
      "invalid type: boolean `" ++ toString b ++ "`, expected " ++ expected.describe := by
  have words : "invalid type: " ++ (Json.Found.boolean b).describe ++ ", expected " =
      "invalid type: boolean `" ++ toString b ++ "`, expected " := by
    cases b <;> decide +kernel
  exact congrArg (· ++ expected.describe) words

/-- **A decode failure names the place of the wrong value.** Where a boolean replaces the value in a place of a
document whose text opens at most 127 objects inside each other, decoding fails with the keys that lead there, set
off by points, and tells what was expected there. -/
theorem decode_misplaced {doc : Document} {path : List String} {expected : Json.Expected}
    (distinct : doc.DistinctKeys) (shallow : Json.openObjects doc.encode ≤ 127) (place : doc.Place path expected)
    (b : Bool) :
    let text := Utf8.encode (doc.toJson.replace path (.boolean b)).compact.toList
    ∃ failure line column, Document.decode text = .error failure ∧
      Defect.ofFailure text failure = .malformed (".".intercalate path)
        ("invalid type: boolean `" ++ toString b ++ "`, expected " ++ expected.describe ++
          (" at line " ++ toString (line : Nat) ++ " column " ++ toString (column : Nat))) := by
  intro text
  have writes : Json.Writes (doc.toJson.replace path (.boolean b)) text := Json.writes_compact _
  have withinLevels : doc.toJson.nesting ≤ maxLevels := by rwa [Document.encode, Json.openObjects_compact] at shallow
  obtain ⟨unread, failed⟩ := (Document.reader_follows maxLevels).whole_eq_error writes
    (place.refused distinct withinLevels b)
  let failure : Json.Failure := ⟨.wrongKind (.boolean b) expected, unread, path.map .key⟩
  refine ⟨failure, (failure.place text).line, (failure.place text).column, failed, ?_⟩
  rw [Defect.ofFailure, Json.Failure.describePath_keys place.ne_nil rfl, Json.Failure.describe_eq,
    Json.Cause.message_boolean]

/-- A document with a property whose name has a point in it, and whose items are missing. -/
def crate : Document where
  name := "store"
  schemas := [("Crate", { kind := "object", properties := some [("box.lid", { kind := "array" })] })]

theorem distinctKeys_crate : crate.DistinctKeys where
  keys := by simp [crate]
  schemas := by
    have lid : Schema.DistinctKeys { kind := "array" } := .intro nofun nofun nofun nofun
    have properties :
        Schema.DistinctKeys { kind := "object", properties := some [("box.lid", { kind := "array" })] } := by
      refine .intro nofun nofun ?_ ?_ <;> rintro _ ⟨⟩
      · simp
      · simpa using lid
    simpa [crate] using properties

/-- The missing items are named after the property, whose point is told like the others. -/
theorem crate_decode_misplaced :
    let text := Utf8.encode
      (crate.toJson.replace ["schemas", "Crate", "properties", "box.lid", "items"] (.boolean true)).compact.toList
    ∃ failure line column, Document.decode text = .error failure ∧
      Defect.ofFailure text failure = .malformed "schemas.Crate.properties.box.lid.items"
        ("invalid type: boolean `true`, expected struct Schema" ++
          (" at line " ++ toString (line : Nat) ++ " column " ++ toString (column : Nat))) := by
  have shallow : Json.openObjects crate.encode ≤ 127 := by
    rw [Document.encode, Json.openObjects_compact]
    decide
  have place : crate.Place ["schemas", "Crate", "properties", "box.lid", "items"] (.record "Schema") :=
    .schema List.mem_cons_self (.property rfl List.mem_cons_self (.noItems rfl))
  have keys : ".".intercalate ["schemas", "Crate", "properties", "box.lid", "items"] =
      "schemas.Crate.properties.box.lid.items" := by decide +kernel
  have words :
      "invalid type: boolean `" ++ toString true ++ "`, expected " ++ (Json.Expected.record "Schema").describe =
      "invalid type: boolean `true`, expected struct Schema" := by decide +kernel
  obtain ⟨failure, line, column, failed, told⟩ := decode_misplaced distinctKeys_crate shallow place true
  exact ⟨failure, line, column, failed, told.trans (congrArg₂ Defect.malformed keys (congrArg (· ++ _) words))⟩

end SchemaTypes
