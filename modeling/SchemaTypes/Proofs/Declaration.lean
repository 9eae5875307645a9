import Mathlib.Data.List.Basic
import SchemaTypes.Declaration
import SchemaTypes.Proofs.Resolution

/-!
# Declarations of sites

A site is a place where a declaration is due: a name, and the properties that become its fields. What a
site declares and what it lifts out is said property by property, in the order of the keys; declaring a
schema succeeds just when it is a struct and each of its properties has a type, and then it gives these.
-/

namespace SchemaTypes
set_option autoImplicit false

/-- A name with the properties to be declared under it. -/
structure Site where
  id : String
  properties : List (String × Schema)

namespace Site

/-- The field for a property, if the property has a type. -/
def field? (owner : String) (entry : String × Schema) : Option Field :=
  match ((Schema.ofEntry entry).resolve owner).result with
  | .ok r => some ⟨entry.1, exported entry.1, r.type⟩
  | .error _ => none

/-- Whether every property has a type. -/
def Resolves (site : Site) : Prop :=
  ∀ entry ∈ site.properties, (Schema.ofEntry entry).Resolves site.id

/-- The declaration of a site, with the properties that have a type as its fields. -/
def declaration (site : Site) : Declaration :=
  ⟨site.id, (sortedByKey site.properties).filterMap (field? site.id)⟩

/-- The schemas that the properties of a site lift out, in the order of their keys. -/
def lifted (site : Site) : List Schema :=
  (sortedByKey site.properties).flatMap fun entry => (Schema.ofEntry entry).lifted site.id

@[simp] theorem id_declaration (site : Site) : site.declaration.id = site.id := rfl

/-- What a site lifts out are structs named below it. -/
theorem liftedUnder_of_mem_lifted {site : Site} {s : Schema} (mem : s ∈ site.lifted) :
    s.LiftedUnder site.id := by
  obtain ⟨entry, _, found⟩ := List.mem_flatMap.1 mem
  unfold Schema.lifted at found
  split at found
  · next r resolved => exact (Schema.hoisted_of_resolve resolved).2 s (Option.mem_toList.1 found)
  · cases found

end Site

/-- The site of a schema, whose declaration is due under the name of the schema. -/
def Schema.site (s : Schema) : Site :=
  ⟨s.id, s.properties.getD []⟩

@[simp] theorem Schema.id_site (s : Schema) : s.site.id = s.id := rfl

theorem Schema.shape_eq_site {s : Schema} (isStruct : s.isStruct = true) :
    s.shape = .struct s.site.properties := by
  obtain ⟨properties, shape⟩ := isStruct_iff_shape.1 isStruct
  rw [shape, site, (shape_eq_struct.1 shape).2, Option.getD_some]

/-- The declarations of the same run that the fields of a declaration name. -/
def Declaration.named (declaration : Declaration) : List String :=
  declaration.fields.filterMap fun field => field.type.named?

/-- Properties resolve to their fields just when all of them have a type. -/
theorem result_resolveFields {owner : String} {entries : List (String × Schema)}
    {fields : List Field} {hoisted : List Schema} :
    (resolveFields owner entries).result = .ok (fields, hoisted) ↔
      (∀ entry ∈ entries, (Schema.ofEntry entry).Resolves owner) ∧
        fields = entries.filterMap (Site.field? owner) ∧
        hoisted = entries.flatMap fun entry => (Schema.ofEntry entry).lifted owner := by
  induction entries generalizing fields hoisted with
  | nil => simp [resolveFields, eq_comm]
  | cons entry more ih =>
    obtain ⟨key, property⟩ := entry
    simp only [resolveFields]
    rw [Traced.result_bind_eq_ok]
    constructor
    · rintro ⟨first, done, rest⟩
      obtain ⟨⟨others, below⟩, done', same⟩ := Traced.result_bind_eq_ok.1 rest
      obtain ⟨all, rfl, rfl⟩ := ih.1 done'
      cases same
      refine ⟨?_, ?_, ?_⟩
      · intro entry mem
        rcases List.mem_cons.1 mem with rfl | mem
        · exact ⟨first, done⟩
        · exact all entry mem
      · simp [Site.field?, Schema.ofEntry, done]
      · simp [Schema.lifted, Schema.ofEntry, done]
    · rintro ⟨all, rfl, rfl⟩
      obtain ⟨first, done⟩ := all (key, property) (by simp)
      have rest := ih.2 ⟨fun entry mem => all entry (by simp [mem]), rfl, rfl⟩
      refine ⟨first, done, Traced.result_bind_eq_ok.2 ⟨_, rest, ?_⟩⟩
      simp [Site.field?, Schema.lifted, done]

/-- **When a schema is declared, and what comes of it.** -/
theorem Schema.result_declare {s : Schema} {declaration : Declaration} {hoisted : List Schema} :
    s.declare.result = .ok (declaration, hoisted) ↔
      s.isStruct = true ∧ s.site.Resolves ∧ declaration = s.site.declaration ∧ hoisted = s.site.lifted := by
  unfold Schema.declare
  split
  · next struct =>
    rw [Traced.result_bind_eq_ok]
    constructor
    · rintro ⟨⟨fields, below⟩, done, rest⟩
      obtain ⟨_, _, same⟩ := Traced.result_bind_eq_ok.1 rest
      obtain ⟨all, rfl, rfl⟩ := result_resolveFields.1 done
      cases same
      exact ⟨struct, fun entry mem => all entry (mem_sortedByKey.2 mem), rfl, rfl⟩
    · rintro ⟨_, all, rfl, rfl⟩
      refine ⟨_, result_resolveFields.2 ⟨fun entry mem => all entry (mem_sortedByKey.1 mem), rfl, rfl⟩, ?_⟩
      exact Traced.result_bind_eq_ok.2 ⟨(), rfl, rfl⟩
  · next notStruct => simp [notStruct]

/-- Properties fail to resolve if one of them does. -/
theorem exists_resolve_eq_error {owner : String} {entries : List (String × Schema)} {defect : Defect}
    (failed : (resolveFields owner entries).result = .error defect) :
    ∃ entry ∈ entries, ((Schema.ofEntry entry).resolve owner).result = .error defect := by
  induction entries with
  | nil => cases failed
  | cons entry more ih =>
    rw [resolveFields.eq_def] at failed
    rcases Traced.result_bind_eq_error.1 failed with here | ⟨_, _, later⟩
    · exact ⟨entry, List.mem_cons_self, here⟩
    · rcases Traced.result_bind_eq_error.1 later with later | ⟨_, _, impossible⟩
      · obtain ⟨found, mem, failed⟩ := ih later
        exact ⟨found, List.mem_cons_of_mem _ mem, failed⟩
      · cases impossible

/-- **Why a schema is not declared**: it is no struct, or one of its properties has no type. -/
theorem Schema.not_declared {s : Schema} {defect : Defect} (failed : s.declare.result = .error defect) :
    (s.isStruct = false ∧ defect = .notStruct s.id) ∨
      (s.isStruct = true ∧ ∃ entry ∈ sortedByKey s.site.properties,
        ((ofEntry entry).resolve s.id).result = .error defect) := by
  unfold declare at failed
  split at failed
  · next struct =>
    rcases Traced.result_bind_eq_error.1 failed with unresolved | ⟨_, _, impossible⟩
    · exact .inr ⟨struct, exists_resolve_eq_error unresolved⟩
    · rcases Traced.result_bind_eq_error.1 impossible with impossible | ⟨_, _, impossible⟩
      · cases impossible
      · cases impossible
  · next notStruct =>
    cases failed
    exact .inl ⟨eq_false_of_ne_true notStruct, rfl⟩

/-- The field of a property names just what the property lifts out. -/
theorem Site.named_field? (owner : String) (entry : String × Schema) :
    ((field? owner entry).bind fun field => field.type.named?).toList =
      ((Schema.ofEntry entry).lifted owner).map (·.id) := by
  cases found : ((Schema.ofEntry entry).resolve owner).result with
  | error defect => simp [field?, Schema.lifted, found]
  | ok r =>
    have core := (Schema.hoisted_of_resolve found).1
    simp [field?, Schema.lifted, found, ← core, Option.toList_map]

/-- The fields of a declaration name just what its site lifts out. -/
theorem Site.named_declaration (site : Site) : site.declaration.named = site.lifted.map (·.id) := by
  simp only [declaration, lifted, Declaration.named, List.filterMap_filterMap, List.map_flatMap]
  rw [List.filterMap_eq_flatMap_toList]
  simp only [named_field?]

end SchemaTypes
