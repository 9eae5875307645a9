import SchemaTypes.Dialect.Go
import SchemaTypes.Proofs.Entries
import SchemaTypes.Proofs.Pass.SideBySide
import SchemaTypes.Proofs.Sheet

/-!
# Schemas that agree

A schema carries more than is read: a reference only names its target, a map is told by its element, an
array by its items, and the kind of anything else leaves no room for children. Schemas agree if they differ
only in what is not read, at any depth, and then whatever stands in the unread places, a fault included,
never shows.
-/

namespace SchemaTypes
set_option autoImplicit false

/-- Both schemas have the kind `kind`, and neither is a reference. -/
structure Schema.OfKind (kind : String) (s t : Schema) : Prop where
  noReference : s.reference = ""
  noReference' : t.reference = ""
  kind_eq : s.kind = kind
  kind_eq' : t.kind = kind

mutual

/-- Schemas that differ only in what is not read of them, and in their own ids. -/
inductive Schema.Agree : Schema → Schema → Prop where
  /-- Of a reference, only its target is read. -/
  | reference {s t : Schema} (isReference : s.reference ≠ "") (same : s.reference = t.reference) :
      Schema.Agree s t
  /-- Of a map, only its element is read. -/
  | map {s t element element' : Schema} (kind : Schema.OfKind "object" s t)
      (found : s.additionalProperties = some element) (found' : t.additionalProperties = some element')
      (elements : ElementAgree element element') : Schema.Agree s t
  /-- Of any other object, only the properties are read. -/
  | object {s t : Schema} (kind : Schema.OfKind "object" s t) (noMap : s.additionalProperties = none)
      (noMap' : t.additionalProperties = none)
      (properties : Option.Rel (List.Forall₂ EntryAgree) s.properties t.properties) : Schema.Agree s t
  /-- Of an array, only its items are read. -/
  | array {s t : Schema} (kind : Schema.OfKind "array" s t)
      (items : Option.Rel ElementAgree s.items t.items) : Schema.Agree s t
  /-- Of anything else, only its kind and format are read. -/
  | plain {s t : Schema} {kind : String} (same : Schema.OfKind kind s t) (notObject : kind ≠ "object")
      (notArray : kind ≠ "array") (format : s.format = t.format) : Schema.Agree s t

/-- Elements that agree. The id of an element is a step of a path, unless the element is a reference. -/
inductive ElementAgree : Schema → Schema → Prop where
  | intro {s t : Schema} (agree : Schema.Agree s t) (id : s.id = t.id ∨ s.reference ≠ "") : ElementAgree s t

/-- Properties that agree under the same key, which stands in for their own ids. -/
inductive EntryAgree : String × Schema → String × Schema → Prop where
  | intro {key : String} {s t : Schema} (agree : Schema.Agree s t) : EntryAgree (key, s) (key, t)

end

/-- Schemas that agree and have the same id. -/
structure Schema.Counterpart (s t : Schema) : Prop where
  id_eq : s.id = t.id
  agree : s.Agree t

/-- Documents that differ only in what is not read of their schemas. -/
structure Document.Agree (doc other : Document) : Prop where
  name : doc.name = other.name
  schemas : List.Forall₂ (fun entry entry' => entry.1 = entry'.1 ∧ entry.2.Counterpart entry'.2)
    doc.schemas other.schemas

namespace Schema

variable {s t : Schema}

/-- Schemas that agree have shapes that go on in step. -/
theorem Agree.beside (agree : s.Agree t) :
    Shape.Beside ElementAgree (List.Forall₂ EntryAgree) s.shape t.shape := by
  rw [shape_eq s, shape_eq t]
  cases agree with
  | reference isReference same =>
    have isReference' : t.reference ≠ "" := same ▸ isReference
    rw [if_pos isReference, if_pos isReference', same]
    exact .reference _
  | map kind found found' elements =>
    obtain ⟨noReference, noReference', object, object'⟩ := kind
    rw [if_neg (not_not.2 noReference), if_neg (not_not.2 noReference'), if_pos object, if_pos object',
      found, found']
    exact .map elements
  | object kind noMap noMap' properties =>
    obtain ⟨noReference, noReference', object, object'⟩ := kind
    rw [if_neg (not_not.2 noReference), if_neg (not_not.2 noReference'), if_pos object, if_pos object',
      noMap, noMap']
    generalize s.properties = entries, t.properties = entries' at properties ⊢
    cases properties with
    | some alike => exact .struct alike
    | none => exact .shapeless
  | array kind items =>
    obtain ⟨noReference, noReference', array, array'⟩ := kind
    rw [if_neg (not_not.2 noReference), if_neg (not_not.2 noReference'), array, array',
      if_neg (by decide), if_pos rfl, if_pos rfl]
    generalize s.items = element, t.items = element' at items ⊢
    cases items with
    | some alike => exact .array alike
    | none => exact .bareArray
  | plain same notObject notArray format =>
    obtain ⟨noReference, noReference', kind, kind'⟩ := same
    rw [if_neg (not_not.2 noReference), if_neg (not_not.2 noReference'), kind, kind', format,
      if_neg notObject, if_neg notObject, if_neg notArray, if_neg notArray]
    exact .plain _ _

theorem OfKind.with_id {kind : String} (same : OfKind kind s t) (id : String) :
    OfKind kind { s with id := id } { t with id := id } :=
  ⟨same.noReference, same.noReference', same.kind_eq, same.kind_eq'⟩

theorem Agree.with_id (agree : s.Agree t) (id : String) : Agree { s with id := id } { t with id := id } := by
  cases agree with
  | reference isReference same => exact .reference isReference same
  | map kind found found' elements => exact .map (kind.with_id id) found found' elements
  | object kind noMap noMap' properties => exact .object (kind.with_id id) noMap noMap' properties
  | array kind items => exact .array (kind.with_id id) items
  | plain same notObject notArray format => exact .plain (same.with_id id) notObject notArray format

end Schema

/-- The struct schemas of properties that agree agree. -/
theorem Schema.Counterpart.struct (name : String) {properties properties' : List (String × Schema)}
    (agree : List.Forall₂ EntryAgree properties properties') :
    Counterpart (.struct name properties) (.struct name properties') where
  id_eq := rfl
  agree := .object ⟨rfl, rfl, rfl, rfl⟩ rfl rfl (.some agree)

namespace ElementAgree

variable {s t : Schema}

theorem beside (same : ElementAgree s t) :
    Shape.Beside ElementAgree (List.Forall₂ EntryAgree) s.shape t.shape := by
  cases same with
  | intro agree _ => exact agree.beside

theorem id_eq_or_reference (same : ElementAgree s t) : s.id = t.id ∨ ∃ target, s.shape = .reference target := by
  cases same with
  | intro _ id =>
    refine id.imp_right fun isReference => ⟨s.reference, ?_⟩
    rw [Schema.shape_eq, if_pos isReference]

/-- **Elements that agree resolve alike.** -/
theorem resolve (same : ElementAgree s t) (path : String) :
    Alike (Resolution.Beside Schema.Counterpart) (s.resolve path).result (t.resolve path).result := by
  apply alike_resolve (E := ElementAgree) (P := List.Forall₂ EntryAgree) _ _ _ same
  · exact beside
  · exact id_eq_or_reference
  · exact Schema.Counterpart.struct

end ElementAgree

theorem EntryAgree.key_eq {entry entry' : String × Schema} (same : EntryAgree entry entry') :
    entry.1 = entry'.1 := by
  cases same
  rfl

/-- Properties that agree resolve alike, since both are met under their key. -/
theorem EntryAgree.beside {entry entry' : String × Schema} (same : EntryAgree entry entry') (owner : String) :
    EntryBeside Schema.Counterpart owner entry entry' := by
  cases same with
  | @intro key s t agree =>
    have element : ElementAgree (Schema.ofEntry (key, s)) (Schema.ofEntry (key, t)) :=
      .intro (agree.with_id key) (.inl rfl)
    exact ⟨rfl, element.resolve owner⟩

/-- **Schemas that agree are declared alike**, and what they lift out agrees again. -/
theorem Schema.Counterpart.correspondence : Correspondence Schema.Counterpart where
  id_eq := id_eq
  declare same := by
    refine alike_declare same.id_eq same.agree.beside ?_
    intro properties properties' agree
    exact (forall₂_sortedByKey (fun _ _ => EntryAgree.key_eq) agree).imp fun _ _ same => same.beside _

namespace Document

variable {doc other : Document}

/-- The roots of documents that agree have the same names, and agree. -/
theorem Agree.roots (agree : doc.Agree other) : List.Forall₂ Schema.Counterpart doc.roots other.roots := by
  unfold Document.roots
  rw [List.forall₂_map_left_iff, List.forall₂_map_right_iff]
  refine agree.schemas.imp ?_
  rintro ⟨key, s⟩ ⟨key', t⟩ ⟨sameKey, sameId, agree⟩
  obtain rfl : key = key' := sameKey
  have sameId : s.id = t.id := sameId
  simp only [← sameId]
  split
  · exact ⟨rfl, agree.with_id key⟩
  · exact ⟨sameId, agree⟩

end Document

/-- **What is not read never shows.** Documents that agree generate the same text, or fail with the same
defect. -/
theorem generate_eq_of_agree (d : Dialect) {doc other : Document} (agree : doc.Agree other) :
    (doc.generate d).result = (other.generate d).result := by
  obtain ⟨declarations, ending⟩ :=
    Document.pass_of_corresponding Schema.Counterpart.correspondence agree.roots
  rw [Document.result_generate, Document.result_generate, declarations, ending, agree.name]

section bank

variable (note : String) (unread : Option Schema)

/-- An object with one property, which leaves its format `note` and its items `unread`. -/
def holding (key : String) (property : Schema) : Schema where
  kind := "object"
  format := note
  items := unread
  properties := some [(key, property)]

/-- A bank with something unread in every kind of place: ids and formats `note`, and children `unread`. -/
def bank : Document where
  name := "bank"
  schemas := [
    ("Account", holding note unread "balance" {
      id := note, kind := "string", format := "int64", items := unread, properties := some [] }),
    ("Customer", holding note unread "person" {
      id := note, kind := note, format := note, reference := "Person"
      items := unread, additionalProperties := unread, properties := some [] }),
    ("Ledger", holding note unread "bookings" {
      id := note, kind := "array", format := note, additionalProperties := unread
      items := some { id := note, reference := "Booking", items := unread } }),
    ("Shelf", holding note unread "labels" {
      id := note, kind := "object", format := note, items := unread
      additionalProperties := some { kind := "string", items := unread }
      properties := unread.map fun s => [("lost", s)] })]

end bank

theorem counterpart_holding {note note' : String} {unread unread' : Option Schema} {key : String}
    {property property' : Schema} (agree : property.Agree property') :
    (holding note unread key property).Counterpart (holding note' unread' key property') :=
  ⟨rfl, .object ⟨rfl, rfl, rfl, rfl⟩ rfl rfl (.some (.cons (.intro agree) .nil))⟩

theorem bank_agree (note note' : String) (unread unread' : Option Schema) :
    (bank note unread).Agree (bank note' unread') := by
  have string : "string" ≠ "object" ∧ "string" ≠ "array" := by decide
  have person : "Person" ≠ "" := by decide
  have booking : "Booking" ≠ "" := by decide
  have bookings : ElementAgree { id := note, reference := "Booking", items := unread }
      { id := note', reference := "Booking", items := unread' } :=
    .intro (.reference booking rfl) (.inr booking)
  have label : ElementAgree { kind := "string", items := unread } { kind := "string", items := unread' } :=
    .intro (.plain ⟨rfl, rfl, rfl, rfl⟩ string.1 string.2 rfl) (.inl rfl)
  refine ⟨rfl, .cons ⟨rfl, ?account⟩ (.cons ⟨rfl, ?customer⟩ (.cons ⟨rfl, ?ledger⟩ (.cons ⟨rfl, ?shelf⟩ .nil)))⟩
  case account => exact counterpart_holding (.plain ⟨rfl, rfl, rfl, rfl⟩ string.1 string.2 rfl)
  case customer => exact counterpart_holding (.reference person rfl)
  case ledger => exact counterpart_holding (.array ⟨rfl, rfl, rfl, rfl⟩ (.some bookings))
  case shelf => exact counterpart_holding (.map ⟨rfl, rfl, rfl, rfl⟩ rfl rfl label)

theorem bank_generate_eq :
    (bank "" none).Agree (bank "draft" (some { kind := "array" })) ∧
      ((bank "" none).generate .go).result =
        ((bank "draft" (some { kind := "array" })).generate .go).result ∧
      (bank "" none).pass.ending = .ok () := by
  have agree := bank_agree "" "draft" none (some { kind := "array" })
  exact ⟨agree, generate_eq_of_agree .go agree, by decide +kernel⟩

end SchemaTypes
