import SchemaTypes.Proofs.Json.Yields
import SchemaTypes.Proofs.Rearrangement
import SchemaTypes.Schema.Decoding

/-!
# Decoded documents

What is decoded has distinct keys in all of its maps, so it may be rearranged: each decoded document is a
rearrangement of itself.
-/

namespace SchemaTypes
set_option autoImplicit false

open Json (Reader)

theorem EntriesRearranged.refl {entries : List (String × Schema)}
    (holds : (entries.map (·.1)).Nodup ∧ ∀ entry ∈ entries, entry.2.Rearranged entry.2) :
    EntriesRearranged entries entries :=
  .intro holds.1 (.refl _) (List.forall₂_same.2 fun (_, _) mem => .intro (holds.2 _ mem))

/-- A schema without children. -/
theorem Schema.Rearranged.plain : Schema.Rearranged {} {} :=
  .intro rfl rfl rfl rfl .none .none .none

namespace Schema

/-- Each field of a schema keeps the keys distinct, provided that its children and properties are read so. -/
theorem yields_fields {child : Reader Schema} {properties : Reader (List (String × Schema))}
    (children : child.Yields fun s => s.Rearranged s)
    (entries : properties.Yields fun entries => EntriesRearranged entries entries) :
    ∀ field ∈ fields child properties, ∀ s : Schema, s.Rearranged s →
      (field.read s).Yields fun t => t.Rearranged t := by
  have anyChild : (Json.optional child).Yields fun s => Option.Rel Schema.Rearranged s s :=
    .optional .none (children.imp .some)
  have anyEntries : (Json.optional properties).Yields fun xs => Option.Rel EntriesRearranged xs xs :=
    .optional .none (entries.imp .some)
  intro field mem s holds
  obtain ⟨_, _, _, _, items, additionalProperties, properties⟩ := holds
  simp only [fields, List.mem_cons, List.not_mem_nil, or_false] at mem
  rcases mem with rfl | rfl | rfl | rfl | rfl | rfl | rfl
  · exact .after fun _ => .pure (.intro rfl rfl rfl rfl items additionalProperties properties)
  · exact .after fun _ => .pure (.intro rfl rfl rfl rfl items additionalProperties properties)
  · exact .after fun _ => .pure (.intro rfl rfl rfl rfl items additionalProperties properties)
  · exact .after fun _ => .pure (.intro rfl rfl rfl rfl items additionalProperties properties)
  · exact .bind anyChild fun _ items => .pure (.intro rfl rfl rfl rfl items additionalProperties properties)
  · exact .bind anyChild fun _ element => .pure (.intro rfl rfl rfl rfl items element properties)
  · exact .bind anyEntries fun _ entries => .pure (.intro rfl rfl rfl rfl items additionalProperties entries)

theorem yields_reader : ∀ levels : Nat, (reader levels).Yields fun s => s.Rearranged s
  | 0 => fun text s rest read => Reader.Yields.record_none text s rest read
  | 1 => fun text s rest read =>
    Reader.Yields.record (yields_fields (yields_reader 0) .map_none) .plain text s rest read
  | levels + 2 => fun text s rest read => by
    have entries := (Reader.Yields.map (yields_reader levels)).imp EntriesRearranged.refl
    exact Reader.Yields.record (yields_fields (yields_reader (levels + 1)) entries) .plain text s rest read

end Schema

namespace Document

theorem yields_fields {schemas : Reader (List (String × Schema))}
    (entries : schemas.Yields fun entries => EntriesRearranged entries entries) :
    ∀ field ∈ fields schemas, ∀ doc : Document, doc.Rearranged doc →
      (field.read doc).Yields fun other => other.Rearranged other := by
  intro field mem doc holds
  simp only [fields, List.mem_cons, List.not_mem_nil, or_false] at mem
  rcases mem with rfl | rfl
  · exact .after fun _ => .pure ⟨rfl, holds.schemas⟩
  · exact .bind entries fun _ entries => .pure ⟨rfl, entries⟩

theorem yields_reader (levels : Nat) : (reader levels).Yields fun doc => doc.Rearranged doc := by
  have empty : Rearranged {} {} := ⟨rfl, .refl ⟨.nil, by simp⟩⟩
  unfold reader
  split
  · exact .record_none
  · exact .record (yields_fields .map_none) empty
  · exact .record (yields_fields ((Reader.Yields.map (Schema.yields_reader _)).imp EntriesRearranged.refl)) empty

/-- A decoded document may be rearranged. -/
theorem rearranged_of_decode {text : Bytes} {doc : Document} (decoded : decode text = .ok doc) :
    doc.Rearranged doc :=
  (yields_reader maxLevels).whole decoded

end Document

/-- The maps of a schema have distinct keys, at any depth. -/
inductive Schema.DistinctKeys : Schema → Prop where
  | intro {s : Schema} (items : ∀ child ∈ s.items, child.DistinctKeys)
      (additionalProperties : ∀ child ∈ s.additionalProperties, child.DistinctKeys)
      (keys : ∀ entries ∈ s.properties, (entries.map (·.1)).Nodup)
      (properties : ∀ entries ∈ s.properties, ∀ entry ∈ entries, entry.2.DistinctKeys) : s.DistinctKeys

/-- The maps of a document have distinct keys, at any depth. -/
structure Document.DistinctKeys (doc : Document) : Prop where
  keys : (doc.schemas.map (·.1)).Nodup
  schemas : ∀ entry ∈ doc.schemas, entry.2.DistinctKeys

/-- What is present on one side is related to something on the other. -/
theorem exists_of_optionRel {α β : Type} {R : α → β → Prop} {x : Option α} {y : Option β} (alike : Option.Rel R x y)
    {a : α} (mem : a ∈ x) : ∃ b, R a b := by
  cases alike with
  | some alike => exact ⟨_, Option.some.inj mem ▸ alike⟩
  | none => cases mem

/-- Each entry is rearranged to one on the other side. -/
theorem EntriesRearranged.exists_of_mem {entries entries' : List (String × Schema)}
    (alike : EntriesRearranged entries entries') {entry : String × Schema} (mem : entry ∈ entries) :
    ∃ s, entry.2.Rearranged s := by
  cases alike with
  | intro _ moved alike =>
    replace mem := moved.subset mem
    clear moved
    induction alike with
    | nil => cases mem
    | cons first _ ih =>
      rcases List.mem_cons.1 mem with rfl | mem
      · cases first with
        | intro same => exact ⟨_, same⟩
      · exact ih mem

/-- What stands in a schema is smaller than the schema. -/
theorem Schema.sizeOf_lt {s child : Schema} (inside : child ∈ s.items ∨ child ∈ s.additionalProperties ∨
    ∃ entries ∈ s.properties, ∃ key, (key, child) ∈ entries) : sizeOf child < sizeOf s := by
  obtain ⟨id, kind, format, reference, items, additionalProperties, properties⟩ := s
  simp only [Option.mem_def] at inside
  obtain rfl | rfl | ⟨entries, rfl, key, mem⟩ := inside
  · simp only [mk.sizeOf_spec, Option.some.sizeOf_spec]
    omega
  · simp only [mk.sizeOf_spec, Option.some.sizeOf_spec]
    omega
  · have smaller := List.sizeOf_lt_of_mem mem
    simp only [mk.sizeOf_spec, Option.some.sizeOf_spec, Prod.mk.sizeOf_spec] at smaller ⊢
    omega

/-- A schema that may be rearranged has distinct keys. -/
theorem Schema.Rearranged.distinctKeys : ∀ {s t : Schema}, s.Rearranged t → s.DistinctKeys
  | s, _, .intro _ _ _ _ items additionalProperties properties => by
    refine .intro ?_ ?_ ?_ ?_
    · intro child present
      obtain ⟨_, alike⟩ := exists_of_optionRel items present
      have smaller := Schema.sizeOf_lt (.inl present)
      exact alike.distinctKeys
    · intro child present
      obtain ⟨_, alike⟩ := exists_of_optionRel additionalProperties present
      have smaller := Schema.sizeOf_lt (.inr (.inl present))
      exact alike.distinctKeys
    · intro entries present
      obtain ⟨_, alike⟩ := exists_of_optionRel properties present
      cases alike with
      | intro distinct => exact distinct
    · intro entries present entry mem
      obtain ⟨_, alike⟩ := exists_of_optionRel properties present
      obtain ⟨_, alike⟩ := alike.exists_of_mem mem
      have smaller := Schema.sizeOf_lt (.inr (.inr ⟨entries, present, entry.1, mem⟩))
      exact alike.distinctKeys
termination_by s => sizeOf s

/-- **The maps of a decoded document have distinct keys**, at any depth. -/
theorem Document.distinctKeys_of_decode {text : Bytes} {doc : Document} (decoded : decode text = .ok doc) :
    doc.DistinctKeys := by
  have alike := (rearranged_of_decode decoded).schemas
  constructor
  · cases alike with
    | intro distinct => exact distinct
  · intro entry mem
    obtain ⟨_, alike⟩ := alike.exists_of_mem mem
    exact alike.distinctKeys

end SchemaTypes
