import Mathlib.Data.List.Basic
import SchemaTypes.Proofs.Declaration
import SchemaTypes.Schema.Size

/-!
# Flattening a document

All sites of a document, found by recursion on its schemas alone: a root comes first, then the sites of
what its properties lift out, in the order of the keys, each followed by its own. No name is compared
with another one and nothing waits for its turn. `Site.flatten_eq` reads the recursion in terms of what
a site lifts out, and `Site.lifted_induction` is the induction that goes with it. A root that is no struct is
never declared, so nothing below it is ever due (`Document.dueSites`).
-/

namespace SchemaTypes
set_option autoImplicit false

mutual

/-- The sites that a schema under `path` leads to, under `id` in place of its own id. -/
def Schema.sitesAt (path id : String) : Schema → List Site
  | ⟨_, kind, _, reference, items, additionalProperties, properties⟩ =>
    let name := qualified path id
    if reference ≠ "" then []
    else if kind = "object" then
      match additionalProperties with
      | some element => element.sitesAt name element.id
      | none =>
        match properties with
        | some properties =>
          ⟨name, properties⟩ :: (sortedByKey (sitesOfEntries name properties)).flatMap (·.2)
        | none => []
    else if kind = "array" then
      match items with
      | some element => element.sitesAt name element.id
      | none => []
    else []

/-- The sites that properties of `owner` lead to, under their keys. -/
def sitesOfEntries (owner : String) : List (String × Schema) → List (String × List Site)
  | [] => []
  | entry :: more => sitesOfEntry owner entry :: sitesOfEntries owner more

/-- The sites that one property of `owner` leads to, under its key. -/
def sitesOfEntry (owner : String) : String × Schema → String × List Site
  | (key, property) => (key, property.sitesAt owner key)

end

/-- A site with all sites that its properties lead to. -/
def Site.flatten (site : Site) : List Site :=
  site :: (sortedByKey (sitesOfEntries site.id site.properties)).flatMap (·.2)

/-- All sites of the roots of a document. -/
def Document.sites (doc : Document) : List Site :=
  doc.roots.flatMap fun root => root.site.flatten

/-- The sites below a site. -/
def Site.below (site : Site) : List Site :=
  site.lifted.flatMap fun s => s.site.flatten

theorem sitesOfEntries_eq_map (owner : String) (entries : List (String × Schema)) :
    sitesOfEntries owner entries = entries.map fun entry => (entry.1, entry.2.sitesAt owner entry.1) := by
  induction entries with
  | nil => rfl
  | cons entry more ih => rw [sitesOfEntries, ih, List.map_cons, sitesOfEntry.eq_def]

theorem sortedByKey_sitesOfEntries (owner : String) (entries : List (String × Schema)) :
    sortedByKey (sitesOfEntries owner entries) = sitesOfEntries owner (sortedByKey entries) := by
  rw [sitesOfEntries_eq_map, sitesOfEntries_eq_map]
  unfold sortedByKey
  rw [List.map_mergeSort]
  intro a _ b _
  rfl

namespace Schema

/-- The sites that a schema leads to, by its shape. -/
theorem sitesAt_eq_shape (path id : String) (s : Schema) :
    s.sitesAt path id =
      match s.shape with
      | .struct properties => Site.flatten ⟨qualified path id, properties⟩
      | .map element _ | .array element => element.sitesAt (qualified path id) element.id
      | _ => [] := by
  obtain ⟨_, kind, _, reference, items, additionalProperties, properties⟩ := s
  rw [sitesAt.eq_def]
  simp only [shape]
  split
  · rfl
  · split
    · cases additionalProperties <;> cases properties <;> rfl
    · split
      · cases items <;> rfl
      · rfl

@[simp] theorem sitesAt_ofEntry (path id : String) (entry : String × Schema) :
    (ofEntry entry).sitesAt path id = entry.2.sitesAt path id := by
  rw [sitesAt_eq_shape, sitesAt_eq_shape, ofEntry, shape_with_id]

/-- A schema leads to the sites of what it lifts out. -/
theorem sitesAt_eq (path : String) (s : Schema) :
    s.sitesAt path s.id = (s.lifted path).flatMap fun t => t.site.flatten := by
  induction path, s using walk_induction with
  | step path s ih =>
    rw [sitesAt_eq_shape, lifted_eq]
    cases shape : s.shape with
    | struct properties => exact (List.flatMap_singleton _ _).symm
    | map element | array element => exact ih element (by rw [shape]; rfl)
    | _ => rfl

end Schema

/-- **The recursion of the flattening**: a site, then what it lifts out, each flattened in turn. -/
theorem Site.flatten_eq (site : Site) : site.flatten = site :: site.below := by
  unfold flatten below lifted
  rw [sortedByKey_sitesOfEntries, sitesOfEntries_eq_map, List.flatMap_map, List.flatMap_assoc]
  congr 2
  funext entry
  rw [← Schema.sitesAt_eq, Schema.sitesAt_ofEntry]
  rfl

namespace Schema

theorem size_le_entriesSize {entries : List (String × Schema)} {entry : String × Schema}
    (mem : entry ∈ entries) : entry.2.size ≤ entriesSize entries := by
  induction entries with
  | nil => cases mem
  | cons first more ih =>
    rw [entriesSize]
    rcases List.mem_cons.1 mem with rfl | mem
    · rw [entrySize.eq_def]
      exact Nat.le_add_right _ _
    · exact Nat.le_add_left_of_le (ih mem)

theorem size_le_of_mem_lifted {path : String} {s t : Schema} (mem : t ∈ s.lifted path) : t.size ≤ s.size := by
  unfold lifted at mem
  split at mem
  · next r resolved =>
    have hoisted : r.hoisted = some t := Option.mem_toList.1 mem
    have bound := hoistedSize_resolve_le resolved
    rw [Resolution.hoistedSize, hoisted] at bound
    simpa [totalSize] using bound
  · cases mem

theorem entriesSize_site_lt (s : Schema) : entriesSize s.site.properties < s.size := by
  obtain ⟨_, _, _, _, items, additionalProperties, properties⟩ := s
  cases properties with
  | none =>
    simp only [site, Option.getD_none, size, propertiesSize, entriesSize]
    omega
  | some entries =>
    simp only [site, Option.getD_some, size, propertiesSize]
    omega

end Schema

/-- What a site lifts out has fewer nodes in its properties than the site. -/
theorem Site.entriesSize_lt_of_mem_lifted {site : Site} {s : Schema} (mem : s ∈ site.lifted) :
    Schema.entriesSize s.site.properties < Schema.entriesSize site.properties := by
  obtain ⟨entry, sorted, found⟩ := List.mem_flatMap.1 mem
  calc Schema.entriesSize s.site.properties
    _ < s.size := s.entriesSize_site_lt
    _ ≤ (Schema.ofEntry entry).size := Schema.size_le_of_mem_lifted found
    _ = entry.2.size := Schema.size_with_id entry.2 entry.1
    _ ≤ Schema.entriesSize site.properties := Schema.size_le_entriesSize (mem_sortedByKey.1 sorted)

/-- Induction from a site to what it lifts out. -/
theorem Site.lifted_induction {motive : Site → Prop}
    (step : ∀ site : Site, (∀ s ∈ site.lifted, motive s.site) → motive site) (site : Site) : motive site :=
  step site fun s _ => lifted_induction step s.site
termination_by Schema.entriesSize site.properties
decreasing_by exact entriesSize_lt_of_mem_lifted ‹_›

/-- The sites that are due once a schema is on the agenda: a struct is declared, with all that it leads to. -/
def Schema.dueSites (s : Schema) : List Site :=
  if s.isStruct then s.site.flatten else [s.site]

/-- The sites that may come due in a pass over a document. -/
def Document.dueSites (doc : Document) : List Site :=
  doc.roots.flatMap Schema.dueSites

/-- A struct is due itself, and then what it lifts out. -/
theorem Schema.dueSites_of_isStruct {s : Schema} (isStruct : s.isStruct = true) :
    s.dueSites = s.site :: s.site.lifted.flatMap Schema.dueSites := by
  have lifted : ∀ t ∈ s.site.lifted, t.dueSites = t.site.flatten := by
    intro t mem
    rw [dueSites, if_pos (Site.liftedUnder_of_mem_lifted mem).isStruct]
  rw [dueSites, if_pos isStruct, Site.flatten_eq, Site.below, List.flatMap_congr lifted]

/-- A schema is due itself. -/
theorem Schema.site_mem_dueSites (s : Schema) : s.site ∈ s.dueSites := by
  unfold dueSites
  split
  · rw [Site.flatten_eq]
    exact List.mem_cons_self
  · exact List.mem_singleton_self _

end SchemaTypes
