import SchemaTypes.Proofs.Decoding
import SchemaTypes.Proofs.Json.Compact
import SchemaTypes.Proofs.Json.Nesting
import SchemaTypes.Defect
import SchemaTypes.Proofs.Meaning
import SchemaTypes.Schema.Encoding

/-!
# Decoding what was encoded

A document is read back from its compact text, with the order of all of its maps, as long as the text opens no
more objects inside each other than the readers have levels; beyond that it is refused for its nesting.
-/

namespace SchemaTypes
set_option autoImplicit false

open Json (Value Outcome)

/-- Where objects are nested no deeper than there are levels, the value is read; elsewhere the nesting is refused. -/
structure Fits {α : Type} (nesting levels : Nat) (outcome : Outcome α) (value : α) : Prop where
  reads : nesting ≤ levels → outcome = .ok value
  refuses : levels < nesting → ∃ path, outcome = .error (some ⟨.nestingTooDeep, path⟩)

namespace Fits

variable {α β : Type} {n m levels : Nat} {outcome : Outcome α} {value : α}

theorem ok (levels : Nat) (value : α) : Fits 0 levels (.ok value) value :=
  ⟨fun _ => rfl, fun deep => absurd deep (Nat.not_lt_zero _)⟩

/-- What is read in two steps is nested as deep as the deeper one. -/
theorem bind {further : α → Outcome β} {value' : β} (first : Fits n levels outcome value)
    (second : Fits m levels (further value) value') : Fits (max n m) levels (outcome >>= further) value' := by
  constructor
  · intro shallow
    rw [first.reads (by omega)]
    exact second.reads (by omega)
  · intro deep
    by_cases here : levels < n
    · obtain ⟨path, refused⟩ := first.refuses here
      rw [refused]
      exact ⟨path, rfl⟩
    · rw [first.reads (by omega)]
      exact second.refuses (by omega)

theorem bind_pure (fits : Fits n levels outcome value) (g : α → β) :
    Fits n levels (outcome >>= fun value => pure (g value)) (g value) := by
  have last : Fits 0 levels (pure (g value) : Outcome β) (g value) := .ok levels (g value)
  have both : Fits (max n 0) levels (outcome >>= fun value => pure (g value)) (g value) := fits.bind last
  rwa [Nat.max_zero] at both

theorem within (step : Json.Step) (fits : Fits n levels outcome value) :
    Fits n levels (outcome.within step) value := by
  constructor
  · intro shallow
    rw [fits.reads shallow]
    rfl
  · intro deep
    obtain ⟨path, refused⟩ := fits.refuses deep
    rw [refused]
    exact ⟨step :: path, rfl⟩

/-- A map or a record takes a level for itself. -/
theorem opened (fits : Fits n levels outcome value) : Fits (1 + n) (levels + 1) outcome value :=
  ⟨fun shallow => fits.reads (by omega), fun deep => fits.refuses (by omega)⟩

/-- Where no level is left, every object is refused. -/
theorem refused (n : Nat) (value : α) : Fits (1 + n) 0 (.error (some ⟨.nestingTooDeep, []⟩)) value :=
  ⟨fun shallow => by omega, fun _ => ⟨[], rfl⟩⟩

end Fits

namespace Schema

variable {levels : Nat}

/-- The entries of a map are assigned behind each other, since their keys are distinct. -/
theorem fits_foldlM {entries : List (String × Schema)} (sofar : List (String × Schema))
    (fits : ∀ entry ∈ entries, Fits entry.2.toJson.nesting levels (ofJson levels entry.2.toJson) entry.2)
    (distinct : ((sofar ++ entries).map (·.1)).Nodup) :
    Fits (Value.membersNesting (entriesToJson entries)) levels
      ((entriesToJson entries).foldlM (Value.asMap.assignTo (ofJson levels)) sofar) (sofar ++ entries) := by
  induction entries generalizing sofar with
  | nil =>
    rw [List.append_nil]
    exact .ok levels sofar
  | cons entry more ih =>
    obtain ⟨key, s⟩ := entry
    have new : key ∉ sofar.map (·.1) := by
      intro mem
      rw [List.map_append, List.nodup_append] at distinct
      exact distinct.2.2 key mem key List.mem_cons_self rfl
    have first := ((fits (key, s) List.mem_cons_self).bind_pure (assign key · sofar)).within (.key key)
    rw [assign_of_notMem new] at first
    rw [List.append_cons] at distinct ⊢
    exact first.bind (ih _ (fun entry mem => fits entry (List.mem_cons_of_mem _ mem)) distinct)

/-- A map is read where its own level and those of its entries are left. -/
theorem fits_entries {entries : List (String × Schema)}
    (fits : ∀ entry ∈ entries, ∀ levels, Fits entry.2.toJson.nesting levels (ofJson levels entry.2.toJson) entry.2)
    (distinct : (entries.map (·.1)).Nodup) (levels : Nat) :
    Fits (Value.object (entriesToJson entries)).nesting levels
      (entriesOfJson levels (.object (entriesToJson entries))) entries := by
  cases levels with
  | zero => exact .refused _ entries
  | succ levels => exact (fits_foldlM [] (fun entry mem => fits entry mem levels) distinct).opened

theorem fits_child {child : Option Schema}
    (fits : ∀ s ∈ child, Fits s.toJson.nesting levels (ofJson levels s.toJson) s) :
    Fits (childToJson child).nesting levels ((childToJson child).asOptional (ofJson levels)) child := by
  cases child with
  | none => exact .ok levels none
  | some s =>
    have read := (fits s rfl).bind_pure some
    cases s
    exact read

theorem fits_properties {properties : Option (List (String × Schema))}
    (fits : ∀ entries ∈ properties, Fits (Value.object (entriesToJson entries)).nesting levels
      (entriesOfJson levels (.object (entriesToJson entries))) entries) :
    Fits (propertiesToJson properties).nesting levels
      ((propertiesToJson properties).asOptional (entriesOfJson levels)) properties := by
  cases properties with
  | none => exact .ok levels none
  | some entries => exact (fits entries rfl).bind_pure some

/-- **A schema is read back where its objects are nested no deeper than there are levels.** -/
theorem DistinctKeys.fits {s : Schema} (distinct : s.DistinctKeys) (levels : Nat) :
    Fits s.toJson.nesting levels (ofJson levels s.toJson) s := by
  -- On the schema: a child has one level less, and an entry of the properties two, so the levels vary.
  induction distinct generalizing levels with
  | @intro s _ _ keys _ items additionalProperties properties =>
    obtain ⟨id, kind, format, reference, _, _, _⟩ := s
    cases levels with
    | zero => exact .refused _ _
    | succ levels =>
      have text (name text : String) :
          Fits (Value.string text).nesting levels ((Value.string text).asString.within (.key name)) text :=
        .ok levels text
      have items := fits_child fun s here => items s here levels
      have additionalProperties := fits_child fun s here => additionalProperties s here levels
      have properties := fits_properties fun entries here =>
        fits_entries (properties entries here) (keys entries here) levels
      refine Fits.opened ?_
      rw [toJson, ofJson, asRecord_meanings]
      exact (text _ id).bind <| (text _ kind).bind <| (text _ format).bind <| (text _ reference).bind <|
        (items.within _).bind <| (additionalProperties.within _).bind <| (properties.within _).bind <| .ok _ _

end Schema

theorem Document.DistinctKeys.fits {doc : Document} (distinct : doc.DistinctKeys) (levels : Nat) :
    Fits doc.toJson.nesting levels (ofJson levels doc.toJson) doc := by
  cases levels with
  | zero => exact .refused _ _
  | succ levels =>
    have schemas := Schema.fits_entries (fun entry mem levels => (distinct.schemas entry mem).fits levels)
      distinct.keys levels
    have name : Fits (Value.string doc.name).nesting levels ((Value.string doc.name).asString.within (.key "name"))
        doc.name := .ok levels doc.name
    refine Fits.opened ?_
    rw [toJson, ofJson, asRecord_meanings]
    exact name.bind ((schemas.within _).bind (.ok _ _))

/-- The wording of a failure is that of its cause, and then the place. -/
theorem Json.Failure.describe_eq (failure : Json.Failure) (text : Bytes) :
    failure.describe text = failure.cause.message ++
      (" at line " ++ toString (failure.place text).line ++ " column " ++ toString (failure.place text).column) := by
  simp [Json.Failure.describe, String.append_assoc, toString]

/-- A text is decoded into `value` if no point of it lies inside more than 127 objects, and is refused for its
nesting otherwise. -/
structure ReadBack {α : Type} (decode : Bytes → Except Json.Failure α) (text : String) (value : α) : Prop where
  reads : Json.openObjects text ≤ 127 → decode (Utf8.encode text.toList) = .ok value
  refuses : 127 < Json.openObjects text → ∃ failure path place, decode (Utf8.encode text.toList) = .error failure ∧
    Defect.ofFailure (Utf8.encode text.toList) failure = .malformed path ("recursion limit exceeded" ++ place)

theorem Fits.readBack {α : Type} {reader : Json.Reader α} {f : Value → Outcome α} {v : Value} {value : α}
    (fits : Fits v.nesting maxLevels (f v) value) (follows : reader.Follows f) :
    ReadBack (Json.whole reader) v.compact value := by
  have writes := Json.writes_compact v
  constructor <;> rw [Json.openObjects_compact]
  · intro shallow
    exact (follows.whole_eq_ok_iff writes).2 (fits.reads shallow)
  · intro deep
    obtain ⟨path, refused⟩ := fits.refuses deep
    obtain ⟨unread, failed⟩ := follows.whole_eq_error writes refused
    exact ⟨_, _, _, failed, congrArg (Defect.malformed _) (Json.Failure.describe_eq _ _)⟩

/-- Arrays inside each other. -/
def arrays : Nat → Schema
  | 0 => {}
  | depth + 1 => { kind := "array", items := some (arrays depth) }

theorem nesting_arrays (depth : Nat) : (arrays depth).toJson.nesting = depth + 1 := by
  induction depth with
  | zero => rfl
  | succ depth ih =>
    simp [arrays, Schema.toJson, Schema.childToJson, Schema.propertiesToJson, Value.nesting, Value.membersNesting,
      Value.memberNesting, ih, Nat.add_comm]

theorem openObjects_arrays (depth : Nat) : Json.openObjects (arrays depth).encode = depth + 1 :=
  (Json.openObjects_compact _).trans (nesting_arrays depth)

theorem distinctKeys_arrays (depth : Nat) : (arrays depth).DistinctKeys := by
  induction depth with
  | zero => exact .intro nofun nofun nofun nofun
  | succ depth ih =>
    refine .intro ?_ nofun nofun nofun
    rintro _ ⟨⟩
    exact ih

/-- A document with arrays inside each other. -/
def stacked (depth : Nat) : Document where
  name := "store"
  schemas := [("shelf", arrays depth)]

theorem openObjects_stacked (depth : Nat) : Json.openObjects (stacked depth).encode = depth + 3 := by
  have nesting : (stacked depth).toJson.nesting = 1 + max 0 (max (1 + max (arrays depth).toJson.nesting 0) 0) := rfl
  rw [Document.encode, Json.openObjects_compact, nesting, nesting_arrays]
  omega

theorem distinctKeys_stacked (depth : Nat) : (stacked depth).DistinctKeys where
  keys := by simp [stacked]
  schemas := by simp [stacked, distinctKeys_arrays]

/-- **Decoding undoes encoding, exactly up to the nesting limit.** A document and a schema are read back from their
compact texts, whatever their strings and whatever the order of their maps, as long as no more than 127 objects are
open at once there; beyond that the text is refused. -/
theorem decode_encode (doc : Document) (s : Schema) (documentKeys : doc.DistinctKeys) (schemaKeys : s.DistinctKeys) :
    ReadBack Document.decode doc.encode doc ∧ ReadBack Schema.decode s.encode s :=
  ⟨(documentKeys.fits maxLevels).readBack (Document.reader_follows maxLevels),
    (schemaKeys.fits maxLevels).readBack (Schema.reader_follows maxLevels)⟩

/-- A document may stack 124 arrays inside each other, a schema 126; one more is refused. -/
theorem stacked_decode_encode :
    Document.decode (Utf8.encode (stacked 124).encode.toList) = .ok (stacked 124) ∧
      Schema.decode (Utf8.encode (arrays 126).encode.toList) = .ok (arrays 126) ∧
      (∃ failure path place, Document.decode (Utf8.encode (stacked 125).encode.toList) = .error failure ∧
        Defect.ofFailure (Utf8.encode (stacked 125).encode.toList) failure =
          .malformed path ("recursion limit exceeded" ++ place)) ∧
      (∃ failure path place, Schema.decode (Utf8.encode (arrays 127).encode.toList) = .error failure ∧
        Defect.ofFailure (Utf8.encode (arrays 127).encode.toList) failure =
          .malformed path ("recursion limit exceeded" ++ place)) := by
  have shallow := decode_encode (stacked 124) (arrays 126) (distinctKeys_stacked _) (distinctKeys_arrays _)
  have deep := decode_encode (stacked 125) (arrays 127) (distinctKeys_stacked _) (distinctKeys_arrays _)
  refine ⟨shallow.1.reads ?_, shallow.2.reads ?_, deep.1.refuses ?_, deep.2.refuses ?_⟩
  · exact Nat.le_of_eq (openObjects_stacked 124)
  · exact Nat.le_of_eq (openObjects_arrays 126)
  · exact Nat.lt_of_lt_of_eq (by decide) (openObjects_stacked 125).symm
  · exact Nat.lt_of_lt_of_eq (by decide) (openObjects_arrays 127).symm

end SchemaTypes
