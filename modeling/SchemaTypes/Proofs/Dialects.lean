import SchemaTypes.Dialect.Go
import SchemaTypes.Dialect.Rust
import SchemaTypes.Proofs.Pass.Steps
import SchemaTypes.Proofs.Declaration
import SchemaTypes.Proofs.Sheet

/-!
# Two dialects of one document

Which declarations come out of a document, in which order and under which names, is settled before a dialect
spells them. So a document fails in both dialects or in none, with the same defect and the same events, and
what it leaves is one list of declarations spelled twice. The identifiers of a field differ at most by the
underscore that sets keywords apart.
-/

namespace SchemaTypes
set_option autoImplicit false

/-- The name of a field is the exported form of its key. -/
theorem Site.name_of_mem_fields {site : Site} {field : Field} (mem : field ∈ site.declaration.fields) :
    field.name = exported field.key := by
  obtain ⟨entry, _, found⟩ := List.mem_filterMap.1 mem
  unfold field? at found
  split at found
  · cases found
    rfl
  · cases found

/-- What a run declares are declarations of sites. -/
theorem Reaches.declares_sites {doc : Document} {point : Point} (run : Reaches doc.start point) :
    ∀ declaration ∈ point.declarations, ∃ site : Site, declaration = site.declaration := by
  have kept (p q : Point) (action : Step p q)
      (sofar : ∀ declaration ∈ p.declarations, ∃ site : Site, declaration = site.declaration) :
      ∀ declaration ∈ q.declarations, ∃ site : Site, declaration = site.declaration := by
    cases action with
    | declare declared =>
      obtain ⟨-, -, rfl, -⟩ := Schema.result_declare.1 declared
      intro declaration mem
      rcases List.mem_append.1 mem with mem | mem
      · exact sofar declaration mem
      · exact ⟨_, List.mem_singleton.1 mem⟩
    | _ => exact sofar
  exact run.invariant kept fun _ mem => nomatch mem

/-- The fields of what a document declares are named by their keys. -/
theorem Document.field_name_eq {doc : Document} {declaration : Declaration} {field : Field}
    (declared : declaration ∈ doc.pass.declarations) (mem : field ∈ declaration.fields) :
    field.name = exported field.key := by
  obtain ⟨last, run, -, made⟩ := doc.reaches_stopped
  obtain ⟨site, rfl⟩ := run.declares_sites declaration (made ▸ declared)
  exact Site.name_of_mem_fields mem

/-- The lines of a field have the same identifier, unless the one in Go is a keyword of Rust. -/
theorem Dialect.exists_identifier (field : Field) :
    ∃ identifier,
      go.spellField field = go.fieldText field.key identifier (go.spellFieldType field.type) ∧
      rust.spellField field =
        rust.fieldText field.key (if identifier ∈ rustKeywords then identifier ++ "_" else identifier)
          (rust.spellFieldType field.type) :=
  ⟨fieldIdentifier field.name, rfl, rfl⟩

/-- **The dialects differ in spelling only.** A document has the same outcome, the same events and the same
number of declarations in both, and its texts spell one list of declarations, between a header and the footer
that a failure leaves out. On the line of a field stands the same identifier, with an underscore behind it in
Rust if it is a keyword there. -/
theorem dialects_differ_in_spelling (doc : Document) :
    (Sheet.writeDocument .go {} doc).2.result = (Sheet.writeDocument .rust {} doc).2.result ∧
      (Sheet.writeDocument .go {} doc).2.events = (Sheet.writeDocument .rust {} doc).2.events ∧
      (Sheet.writeDocument .go {} doc).1.declared = (Sheet.writeDocument .rust {} doc).1.declared ∧
      ∃ declarations : List Declaration,
        (∀ d ∈ [Dialect.go, Dialect.rust],
          (Sheet.writeDocument d {} doc).1.declared = declarations.length ∧
            (Sheet.writeDocument d {} doc).1.text =
              d.header doc.name ++ d.spellDeclarations declarations ++
                d.footerAfter (Sheet.writeDocument d {} doc).2.result) ∧
        ∀ declaration ∈ declarations, ∀ field ∈ declaration.fields,
          field.name = exported field.key ∧
            ∃ identifier,
              Dialect.go.spellField field =
                Dialect.go.fieldText field.key identifier (Dialect.go.spellFieldType field.type) ∧
              Dialect.rust.spellField field =
                Dialect.rust.fieldText field.key
                  (if identifier ∈ Dialect.rustKeywords then identifier ++ "_" else identifier)
                  (Dialect.rust.spellFieldType field.type) := by
  refine ⟨?_, ?_, ?_, doc.pass.declarations, ?_, ?_⟩
  · rw [Sheet.result_writeDocument, Sheet.result_writeDocument]
  · rw [Sheet.events_writeDocument, Sheet.events_writeDocument]
  · rw [Sheet.declared_writeDocument, Sheet.declared_writeDocument]
  · intro d _
    constructor
    · rw [Sheet.declared_writeDocument, Nat.zero_add]
    · rw [Sheet.text_writeDocument, Sheet.result_writeDocument, String.empty_append]
  · intro declaration declared field mem
    exact ⟨Document.field_name_eq declared mem, Dialect.exists_identifier field⟩

end SchemaTypes
