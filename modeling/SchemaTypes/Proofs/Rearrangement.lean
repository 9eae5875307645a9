import SchemaTypes.Proofs.Entries
import SchemaTypes.Proofs.SideBySide

/-!
# Rearranged schemas

Entries are a map: their keys are distinct, and their order is only the order in which they were written.
Schemas that differ in the order of entries alone, at any depth, resolve to the same type or fail alike, and
they are declared alike. What they lift out still carries entries in different orders, so it is again only
the same up to rearrangement.
-/

namespace SchemaTypes
set_option autoImplicit false

open scoped List

mutual

/-- Schemas that differ only in the order of properties, at any depth. -/
inductive Schema.Rearranged : Schema → Schema → Prop where
  | intro {s t : Schema} (id : s.id = t.id) (kind : s.kind = t.kind) (format : s.format = t.format)
      (reference : s.reference = t.reference) (items : Option.Rel Schema.Rearranged s.items t.items)
      (additionalProperties : Option.Rel Schema.Rearranged s.additionalProperties t.additionalProperties)
      (properties : Option.Rel EntriesRearranged s.properties t.properties) : Schema.Rearranged s t

/-- Entries under distinct keys, and the same entries in another order with their schemas rearranged. -/
inductive EntriesRearranged : List (String × Schema) → List (String × Schema) → Prop where
  | intro {entries middle entries' : List (String × Schema)} (distinct : (entries.map (·.1)).Nodup)
      (moved : entries.Perm middle) (alike : List.Forall₂ EntryRearranged middle entries') :
      EntriesRearranged entries entries'

/-- One key with schemas that differ only in the order of properties. -/
inductive EntryRearranged : String × Schema → String × Schema → Prop where
  | intro {key : String} {s t : Schema} (alike : Schema.Rearranged s t) : EntryRearranged (key, s) (key, t)

end

/-- Documents that differ only in the order of schemas and of properties at any depth. -/
structure Document.Rearranged (doc other : Document) : Prop where
  name : doc.name = other.name
  schemas : EntriesRearranged doc.schemas other.schemas

/-- Shapes that differ only in the order of properties. What a map discards does not matter. -/
inductive Shape.Rearranged : Shape → Shape → Prop where
  | reference (name : String) : Rearranged (.reference name) (.reference name)
  | map {element element' : Schema} {discarded discarded' : Option (List (String × Schema))}
      (alike : element.Rearranged element') : Rearranged (.map element discarded) (.map element' discarded')
  | struct {properties properties' : List (String × Schema)}
      (alike : EntriesRearranged properties properties') : Rearranged (.struct properties) (.struct properties')
  | shapeless : Rearranged .shapeless .shapeless
  | array {element element' : Schema} (alike : element.Rearranged element') :
      Rearranged (.array element) (.array element')
  | bareArray : Rearranged .bareArray .bareArray
  | plain (kind format : String) : Rearranged (.plain kind format) (.plain kind format)

theorem Shape.Rearranged.beside {shape shape' : Shape} (alike : shape.Rearranged shape') :
    Shape.Beside Schema.Rearranged EntriesRearranged shape shape' := by
  cases alike <;> constructor <;> assumption

namespace Schema.Rearranged

variable {s t : Schema}

theorem id_eq (alike : s.Rearranged t) : s.id = t.id := by
  cases alike
  assumption

theorem with_id (alike : s.Rearranged t) (id : String) :
    Schema.Rearranged { s with id := id } { t with id := id } := by
  cases alike with
  | intro _ kind format reference items additionalProperties properties =>
    exact .intro rfl kind format reference items additionalProperties properties

theorem struct (id : String) {properties properties' : List (String × Schema)}
    (alike : EntriesRearranged properties properties') :
    Schema.Rearranged (.struct id properties) (.struct id properties') :=
  .intro rfl rfl rfl rfl .none .none (.some alike)

theorem shape (alike : s.Rearranged t) : s.shape.Rearranged t.shape := by
  obtain ⟨id, kind, format, reference, items, additionalProperties, properties⟩ := s
  obtain ⟨id', kind', format', reference', items', additionalProperties', properties'⟩ := t
  cases alike with
  | intro _ sameKind sameFormat sameReference items additionalProperties properties =>
    obtain rfl : kind = kind' := sameKind
    obtain rfl : format = format' := sameFormat
    obtain rfl : reference = reference' := sameReference
    simp only [Schema.shape]
    split
    · exact .reference _
    · split
      · cases additionalProperties with
        | some alike => exact .map alike
        | none =>
          cases properties with
          | some alike => exact .struct alike
          | none => exact .shapeless
      · split
        · cases items with
          | some alike => exact .array alike
          | none => exact .bareArray
        · exact .plain _ _

/-- **Schemas that are rearranged resolve alike.** -/
theorem resolve (alike : s.Rearranged t) (path : String) :
    Alike (Resolution.Beside Schema.Rearranged) (s.resolve path).result (t.resolve path).result := by
  apply alike_resolve (E := Schema.Rearranged) (P := EntriesRearranged) _ _ _ alike
  · exact fun same => same.shape.beside
  · exact fun same => .inl same.id_eq
  · exact fun name _ _ same => .struct name same

end Schema.Rearranged

theorem EntryRearranged.key_eq {entry entry' : String × Schema} (alike : EntryRearranged entry entry') :
    entry.1 = entry'.1 := by
  cases alike
  rfl

/-- A property that is rearranged is resolved under its key alike. -/
theorem EntryRearranged.beside {entry entry' : String × Schema} (alike : EntryRearranged entry entry')
    (owner : String) : EntryBeside Schema.Rearranged owner entry entry' := by
  cases alike with
  | intro alike => exact ⟨rfl, (alike.with_id _).resolve owner⟩

/-- In the order of their keys, rearranged entries correspond one by one. -/
theorem EntriesRearranged.sorted {entries entries' : List (String × Schema)}
    (alike : EntriesRearranged entries entries') :
    List.Forall₂ EntryRearranged (sortedByKey entries) (sortedByKey entries') := by
  cases alike with
  | intro distinct moved alike =>
    rw [sortedByKey_perm moved distinct]
    exact forall₂_sortedByKey (fun _ _ same => same.key_eq) alike

/-- **Schemas that are rearranged are declared alike**, and what they lift out is rearranged. -/
theorem Schema.Rearranged.correspondence : Correspondence Schema.Rearranged where
  id_eq := id_eq
  declare alike := by
    refine alike_declare alike.id_eq alike.shape.beside ?_
    intro properties properties' same
    exact same.sorted.imp fun _ _ same => same.beside _

end SchemaTypes
