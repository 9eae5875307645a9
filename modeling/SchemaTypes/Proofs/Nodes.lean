import Mathlib.Data.List.Basic
import SchemaTypes.Proofs.Decoding
import SchemaTypes.Proofs.Reachable
import SchemaTypes.Proofs.Text.ByteOrder

/-!
# The nodes of a document in order

The nodes that a document leads to, as lists. From a property the line goes on through maps and arrays to the node
that settles the type; a struct is followed by the lines of its properties, and each struct on one of these lines is
declared in turn. If all roots are structs, these lists have every reachable node: a struct stands in
`Document.structNodes`, and every node but a root on a line below one of them.
-/

namespace SchemaTypes
set_option autoImplicit false

open scoped List

namespace Schema

theorem mem_of_element? {s element : Schema} (inside : s.shape.element? = some element) :
    element ∈ s.items ∨ element ∈ s.additionalProperties := by
  rw [shape_eq] at inside
  split at inside
  · cases inside
  · split at inside
    · split at inside
      · next found => exact .inr (found.trans inside)
      · cases inside
      · cases inside
    · split at inside
      · split at inside
        · next found => exact .inl (found.trans inside)
        · cases inside
      · cases inside

/-- An element has fewer nodes than what it is an element of. -/
theorem size_element_lt {s element : Schema} (inside : s.shape.element? = some element) : element.size < s.size := by
  have mem := mem_of_element? inside
  obtain ⟨_, _, _, _, items, additionalProperties, _⟩ := s
  rcases mem with rfl | rfl
  · simp only [size, childSize]
    omega
  · simp only [size, childSize]
    omega

theorem isStruct_of_element? {s element : Schema} (inside : s.shape.element? = some element) : s.isStruct = false := by
  refine Bool.eq_false_iff.2 fun isStruct => ?_
  obtain ⟨properties, shape⟩ := isStruct_iff_shape.1 isStruct
  rw [shape] at inside
  cases inside

theorem DistinctKeys.with_id {s : Schema} (distinct : s.DistinctKeys) (id : String) :
    DistinctKeys { s with id := id } := by
  cases distinct with
  | intro items additionalProperties keys properties => exact .intro items additionalProperties keys properties

end Schema

namespace Document

namespace Node

/-- The node for the element of a map or an array. -/
def inside (node : Node) (element : Schema) : Node :=
  ⟨node.place ++ [0], node.owner, node.steps ++ [element.id], element⟩

/-- Whether a declaration of its own stands for the node. -/
def isStruct (node : Node) : Bool :=
  node.schema.isStruct

/-- The node and the ones inside it, from element to element. -/
def line (node : Node) : List Node :=
  match _found : node.schema.shape.element? with
  | some element => node :: line (node.inside element)
  | none => [node]
termination_by node.schema.size
decreasing_by exact Schema.size_element_lt ‹_›

/-- What is declared at the node. -/
def site (node : Node) : Site :=
  ⟨node.name, node.schema.properties.getD []⟩

/-- The nodes for the properties of a struct, in the order of their keys. -/
def properties (node : Node) : List Node :=
  (sortedByKey node.site.properties).zipIdx.map fun (entry, i) =>
    ⟨node.place ++ [i], node.name, [entry.1], .ofEntry entry⟩

/-- The nodes that belong to the declaration of a struct, property by property. -/
def within (node : Node) : List Node :=
  node.properties.flatMap line

/-- The structs among the nodes that belong to the declaration of a struct. -/
def structsWithin (node : Node) : List Node :=
  node.within.filter isStruct

theorem line_eq_of_some {node : Node} {element : Schema} (found : node.schema.shape.element? = some element) :
    node.line = node :: (node.inside element).line := by
  rw [line.eq_def]
  split
  · next found' =>
    cases found.symm.trans found'
    rfl
  · next none_ => cases found.symm.trans none_

theorem line_eq_of_none {node : Node} (none_ : node.schema.shape.element? = none) : node.line = [node] := by
  rw [line.eq_def]
  split
  · next found => cases none_.symm.trans found
  · rfl

/-- Induction along a line. -/
theorem line_induction {motive : Node → Prop}
    (step : ∀ node : Node, (∀ element, node.schema.shape.element? = some element → motive (node.inside element)) →
      motive node) (node : Node) : motive node :=
  step node fun element _ => line_induction step (node.inside element)
termination_by node.schema.size
decreasing_by exact Schema.size_element_lt ‹_›

/-- A property that holds of a node and is passed on to elements holds on the whole line. -/
theorem forall_mem_line {P : Node → Prop}
    (down : ∀ node element, node.schema.shape.element? = some element → P node → P (node.inside element)) {node : Node}
    (start : P node) : ∀ inner ∈ node.line, P inner := by
  induction node using line_induction with
  | step node ih =>
    intro inner mem
    cases found : node.schema.shape.element? with
    | none =>
      rw [line_eq_of_none found] at mem
      exact List.mem_singleton.1 mem ▸ start
    | some element =>
      rw [line_eq_of_some found] at mem
      rcases List.mem_cons.1 mem with rfl | mem
      · exact start
      · exact ih element found (down node element found start) inner mem

theorem self_mem_line (node : Node) : node ∈ node.line := by
  rw [line.eq_def]
  split <;> exact List.mem_cons_self

/-- The element of a node on a line is on the line. -/
theorem inside_mem_line {first node : Node} {element : Schema} (mem : node ∈ first.line)
    (found : node.schema.shape.element? = some element) : node.inside element ∈ first.line := by
  induction first using line_induction with
  | step first ih =>
    cases here : first.schema.shape.element? with
    | none =>
      rw [line_eq_of_none here] at mem
      obtain rfl := List.mem_singleton.1 mem
      cases here.symm.trans found
    | some element' =>
      rw [line_eq_of_some here] at mem ⊢
      refine List.mem_cons_of_mem _ ?_
      rcases List.mem_cons.1 mem with rfl | mem
      · cases here.symm.trans found
        exact self_mem_line _
      · exact ih element' here mem

/-- The nodes on a line belong to one declaration, and stand at or below the first of them. -/
structure Leads (first node : Node) : Prop where
  owner : node.owner = first.owner
  steps : first.steps <+: node.steps
  place : first.place <+: node.place
  size : node.schema.size ≤ first.schema.size

theorem leads_of_mem_line (first : Node) : ∀ node ∈ first.line, first.Leads node := by
  refine forall_mem_line ?_ ⟨rfl, List.prefix_refl _, List.prefix_refl _, Nat.le_refl _⟩
  intro node element inside leads
  refine ⟨leads.owner, leads.steps.trans (List.prefix_append _ _), leads.place.trans (List.prefix_append _ _), ?_⟩
  exact Nat.le_trans (Nat.le_of_lt (Schema.size_element_lt inside)) leads.size

theorem mem_properties {node property : Node} :
    property ∈ node.properties ↔
      ∃ i entry, (sortedByKey node.site.properties)[i]? = some entry ∧
        property = ⟨node.place ++ [i], node.name, [entry.1], .ofEntry entry⟩ := by
  rw [properties, List.mem_map]
  constructor
  · rintro ⟨⟨entry, i⟩, listed, rfl⟩
    exact ⟨i, entry, List.mk_mem_zipIdx_iff_getElem?.1 listed, rfl⟩
  · rintro ⟨i, entry, found, rfl⟩
    exact ⟨(entry, i), List.mk_mem_zipIdx_iff_getElem?.2 found, rfl⟩

theorem size_lt_of_mem_within {node inner : Node} (mem : inner ∈ node.within) :
    inner.schema.size < node.schema.size := by
  obtain ⟨property, given, mem⟩ := List.mem_flatMap.1 mem
  obtain ⟨i, entry, found, rfl⟩ := mem_properties.1 given
  have listed : entry ∈ node.schema.site.properties := mem_sortedByKey.1 (List.mem_of_getElem? found)
  calc inner.schema.size
    _ ≤ (Schema.ofEntry entry).size := (leads_of_mem_line _ inner mem).size
    _ = entry.2.size := Schema.size_with_id entry.2 entry.1
    _ ≤ Schema.entriesSize node.schema.site.properties := Schema.size_le_entriesSize listed
    _ < node.schema.size := node.schema.entriesSize_site_lt

/-- A struct and all structs that are declared because of it. -/
def structs (node : Node) : List Node :=
  node :: node.structsWithin.attach.flatMap fun inner => structs inner.1
termination_by node.schema.size
decreasing_by exact size_lt_of_mem_within (List.mem_filter.1 inner.2).1

theorem structs_eq_cons (node : Node) : node.structs = node :: node.structsWithin.flatMap structs := by
  rw [structs, ← List.flatMap_map Subtype.val structs, List.attach_map_subtype_val]

/-- Induction from a struct to the structs that belong to its declaration. -/
theorem structs_induction {motive : Node → Prop}
    (step : ∀ node : Node, (∀ inner ∈ node.structsWithin, motive inner) → motive node) (node : Node) : motive node :=
  step node fun inner _ => structs_induction step inner
termination_by node.schema.size
decreasing_by exact size_lt_of_mem_within (List.mem_filter.1 ‹_›).1

theorem self_mem_structs (node : Node) : node ∈ node.structs := by
  rw [structs_eq_cons]
  exact List.mem_cons_self

/-- A property that holds of a struct and is passed on to the structs of its declaration holds of all structs. -/
theorem forall_mem_structs {P : Node → Prop} (down : ∀ above, ∀ inner ∈ above.structsWithin, P above → P inner)
    {node : Node} (start : P node) : ∀ inner ∈ node.structs, P inner := by
  induction node using structs_induction with
  | step node ih =>
    intro inner mem
    rw [structs_eq_cons] at mem
    rcases List.mem_cons.1 mem with rfl | mem
    · exact start
    · obtain ⟨first, inside, mem⟩ := List.mem_flatMap.1 mem
      exact ih first inside (down node first inside start) inner mem

/-- A struct that belongs to the declaration of one of the structs is one of them. -/
theorem mem_structs_of_mem_within {node above inner : Node} (declared : above ∈ node.structs)
    (mem : inner ∈ above.within) (isStruct : inner.isStruct) : inner ∈ node.structs := by
  induction node using structs_induction with
  | step node ih =>
    rw [structs_eq_cons] at declared ⊢
    refine List.mem_cons_of_mem _ (List.mem_flatMap.2 ?_)
    rcases List.mem_cons.1 declared with rfl | declared
    · exact ⟨inner, List.mem_filter.2 ⟨mem, isStruct⟩, self_mem_structs inner⟩
    · obtain ⟨first, inside, declared⟩ := List.mem_flatMap.1 declared
      exact ⟨first, inside, ih first inside declared⟩

/-- The structs on a line are what its first node lifts out. -/
theorem structs_line {node : Node} {path : String} (named : node.name = qualified path node.schema.id) :
    (node.line.filter isStruct).map site = (node.schema.lifted path).map Schema.site := by
  induction node using line_induction generalizing path with
  | step node ih =>
    rw [Schema.lifted_eq]
    have walk {element : Schema} (inside : node.schema.shape.element? = some element) :
        (node.line.filter isStruct).map site =
          (element.lifted (qualified path node.schema.id)).map Schema.site := by
      have named' : (node.inside element).name = qualified (qualified path node.schema.id) element.id := by
        rw [← named]
        exact name_element node _ element
      have plain : ¬node.isStruct := Bool.eq_false_iff.1 (Schema.isStruct_of_element? inside)
      rw [line_eq_of_some inside, List.filter_cons_of_neg plain]
      exact ih element inside named'
    have stop (alone : node.schema.shape.element? = none)
        (noStruct : ∀ properties, node.schema.shape ≠ .struct properties) :
        (node.line.filter isStruct).map site = [] := by
      have plain : ¬node.isStruct := fun isStruct => by
        obtain ⟨properties, shape⟩ := Schema.isStruct_iff_shape.1 isStruct
        exact noStruct properties shape
      rw [line_eq_of_none alone, List.filter_cons_of_neg plain]
      rfl
    cases shape : node.schema.shape with
    | struct properties =>
      obtain ⟨struct, given⟩ := Schema.shape_eq_struct.1 shape
      have due : node.isStruct := struct
      rw [line_eq_of_none (by rw [shape]; rfl), List.filter_cons_of_pos due]
      simp only [List.filter_nil, List.map_cons, List.map_nil, site, named, given, Option.getD_some]
      rfl
    | map element => exact walk (by rw [shape]; rfl)
    | array element => exact walk (by rw [shape]; rfl)
    | _ => exact stop (by rw [shape]; rfl) (by rw [shape]; nofun)

/-- What is said of the lines of all properties, property by property. -/
theorem flatMap_properties {α : Type} (node : Node) {f : Node → List α} {g : String × Schema → List α}
    (each : ∀ i entry, f ⟨node.place ++ [i], node.name, [entry.1], .ofEntry entry⟩ = g entry) :
    node.properties.flatMap f = (sortedByKey node.site.properties).flatMap g := by
  calc node.properties.flatMap f
    _ = (sortedByKey node.site.properties).zipIdx.flatMap fun pair => g pair.1 := by
      rw [properties, List.flatMap_map]
      exact List.flatMap_congr fun pair _ => each pair.2 pair.1
    _ = (sortedByKey node.site.properties).flatMap g := by
      rw [← List.flatMap_map Prod.fst g, List.zipIdx_map_fst]

/-- The structs that belong to a declaration are what its properties lift out. -/
theorem structsWithin_eq (node : Node) : node.structsWithin.map site = node.site.lifted.map Schema.site := by
  rw [structsWithin, within, List.filter_flatMap, List.map_flatMap, Site.lifted, List.map_flatMap]
  exact node.flatMap_properties fun i entry => structs_line rfl

/-- The structs of a struct are the sites of its flattening. -/
theorem structs_eq (node : Node) : node.structs.map site = node.site.flatten := by
  induction node using structs_induction with
  | step node ih =>
    have inner : node.structsWithin.flatMap (fun inner => inner.structs.map site) =
        node.structsWithin.flatMap fun inner => inner.site.flatten := List.flatMap_congr ih
    rw [structs_eq_cons, List.map_cons, List.map_flatMap, inner, Site.flatten_eq, Site.below]
    have lifted := congrArg (List.flatMap Site.flatten) node.structsWithin_eq
    rw [List.flatMap_map, List.flatMap_map] at lifted
    rw [lifted]

end Node

/-- The nodes of the roots. -/
def rootNodes (doc : Document) : List Node :=
  doc.roots.zipIdx.map fun (root, i) => ⟨[i], root.id, [], root⟩

/-- The structs that come to be declared if all roots are structs. -/
def structNodes (doc : Document) : List Node :=
  doc.rootNodes.flatMap Node.structs

variable {doc : Document}

theorem mem_rootNodes {node : Node} :
    node ∈ doc.rootNodes ↔ ∃ i s, doc.roots[i]? = some s ∧ node = ⟨[i], s.id, [], s⟩ := by
  rw [rootNodes, List.mem_map]
  constructor
  · rintro ⟨⟨s, i⟩, listed, rfl⟩
    exact ⟨i, s, List.mk_mem_zipIdx_iff_getElem?.1 listed, rfl⟩
  · rintro ⟨i, s, found, rfl⟩
    exact ⟨(s, i), List.mk_mem_zipIdx_iff_getElem?.2 found, rfl⟩

/-- **The structs of a document stand for its sites**, one by one. -/
theorem site_structNodes (doc : Document) : doc.structNodes.map Node.site = doc.sites := by
  calc doc.structNodes.map Node.site
    _ = doc.rootNodes.flatMap fun node => node.site.flatten := by
      rw [structNodes, List.map_flatMap]
      exact List.flatMap_congr fun node _ => node.structs_eq
    _ = doc.roots.zipIdx.flatMap fun pair => pair.1.site.flatten := by
      rw [rootNodes, List.flatMap_map]
      rfl
    _ = doc.sites := by
      rw [← List.flatMap_map Prod.fst fun root : Schema => root.site.flatten, List.zipIdx_map_fst]
      rfl

theorem Reachable.of_mem_line {first : Node} (reachable : doc.Reachable first) :
    ∀ node ∈ first.line, doc.Reachable node :=
  Node.forall_mem_line (fun _ _ found reached => reached.element found) reachable

theorem Reachable.of_mem_within {above node : Node} (reachable : doc.Reachable above) (isStruct : above.isStruct)
    (mem : node ∈ above.within) : doc.Reachable node := by
  obtain ⟨property, given, mem⟩ := List.mem_flatMap.1 mem
  obtain ⟨i, entry, found, rfl⟩ := Node.mem_properties.1 given
  exact (reachable.property (Schema.shape_eq_site isStruct) found).of_mem_line node mem

theorem mem_structNodes_of_mem_within {above node : Node} (declared : above ∈ doc.structNodes)
    (mem : node ∈ above.within) (isStruct : node.isStruct) : node ∈ doc.structNodes := by
  obtain ⟨root, given, below⟩ := List.mem_flatMap.1 declared
  exact List.mem_flatMap.2 ⟨root, given, Node.mem_structs_of_mem_within below mem isStruct⟩

section

variable (structs : ∀ root ∈ doc.roots, root.isStruct = true)
include structs

theorem reachable_of_mem_structNodes {node : Node} (mem : node ∈ doc.structNodes) :
    doc.Reachable node ∧ node.isStruct := by
  obtain ⟨root, given, mem⟩ := List.mem_flatMap.1 mem
  refine Node.forall_mem_structs (P := fun node => doc.Reachable node ∧ node.isStruct) ?_ ?_ node mem
  · intro above inner inside declared
    obtain ⟨within, isStruct⟩ := List.mem_filter.1 inside
    exact ⟨declared.1.of_mem_within declared.2 within, isStruct⟩
  · obtain ⟨i, s, found, rfl⟩ := mem_rootNodes.1 given
    exact ⟨.root found, structs s (List.mem_of_getElem? found)⟩

/-- **Every reachable node is in the lists**: as a struct, or on a line below a struct. -/
theorem Reachable.mem_structNodes_or {node : Node} (reachable : doc.Reachable node) :
    node ∈ doc.structNodes ∨ ∃ above ∈ doc.structNodes, node ∈ above.within := by
  induction reachable with
  | @root i s found =>
    have given : ⟨[i], s.id, [], s⟩ ∈ doc.rootNodes := mem_rootNodes.2 ⟨i, s, found, rfl⟩
    exact .inl (List.mem_flatMap.2 ⟨_, given, Node.self_mem_structs _⟩)
  | @property node properties i entry _ shape found ih =>
    obtain ⟨isStruct, given⟩ := Schema.shape_eq_struct.1 shape
    have declared : node ∈ doc.structNodes := by
      rcases ih with declared | ⟨above, declared, mem⟩
      · exact declared
      · exact mem_structNodes_of_mem_within declared mem isStruct
    have same : node.site.properties = properties := by
      rw [Node.site, given, Option.getD_some]
    have listed := Node.mem_properties.2 ⟨i, entry, same ▸ found, rfl⟩
    exact .inr ⟨node, declared, List.mem_flatMap.2 ⟨_, listed, Node.self_mem_line _⟩⟩
  | @element node element _ found ih =>
    -- A node with an element is no struct, so it stands on a line, and the element behind it.
    rcases ih with declared | ⟨above, declared, mem⟩
    · have isStruct : node.schema.isStruct = true := (reachable_of_mem_structNodes structs declared).2
      cases (Schema.isStruct_of_element? found).symm.trans isStruct
    · obtain ⟨property, given, mem⟩ := List.mem_flatMap.1 mem
      exact .inr ⟨above, declared, List.mem_flatMap.2 ⟨property, given, Node.inside_mem_line mem found⟩⟩

/-- The structs are the reachable nodes that are declared. -/
theorem mem_structNodes {node : Node} : node ∈ doc.structNodes ↔ doc.Reachable node ∧ node.isStruct := by
  refine ⟨reachable_of_mem_structNodes structs, fun ⟨reachable, isStruct⟩ => ?_⟩
  rcases reachable.mem_structNodes_or structs with declared | ⟨above, declared, mem⟩
  · exact declared
  · exact mem_structNodes_of_mem_within declared mem isStruct

end

/-- The maps of all reachable nodes have distinct keys if those of the document have. -/
theorem Reachable.distinctKeys (distinct : doc.DistinctKeys) {node : Node} (reachable : doc.Reachable node) :
    node.schema.DistinctKeys := by
  induction reachable with
  | @root i s found =>
    obtain ⟨entry, mem, rfl⟩ := List.mem_map.1 (List.mem_of_getElem? found)
    have given := distinct.schemas entry mem
    dsimp only
    split
    · exact given.with_id entry.1
    · exact given
  | @property node properties i entry _ shape found ih =>
    cases ih with
    | intro _ _ _ children =>
      have mem := mem_sortedByKey.1 (List.mem_of_getElem? found)
      exact (children properties (Schema.shape_eq_struct.1 shape).2 entry mem).with_id entry.1
  | @element node element _ found ih =>
    cases ih with
    | intro items additionalProperties _ _ =>
      rcases Schema.mem_of_element? found with mem | mem
      · exact items element mem
      · exact additionalProperties element mem

/-- The properties of a reachable struct have distinct keys. -/
theorem Reachable.nodup_keys (distinct : doc.DistinctKeys) {node : Node} (reachable : doc.Reachable node)
    (isStruct : node.isStruct) : (node.site.properties.map (·.1)).Nodup := by
  cases reachable.distinctKeys distinct with
  | intro _ _ keys _ => exact keys _ (Schema.shape_eq_struct.1 (Schema.shape_eq_site isStruct)).2

namespace Node

/-- Whether a node stands above another one. -/
def Outside (node inner : Node) : Prop :=
  node.place <+: inner.place ∧ node.place ≠ inner.place

/-- The key of the property that a node belongs to. -/
def key (node : Node) : String :=
  node.steps.headD ""

/-- The order of the nodes that belong to declarations: by the name of the declaration, then by the key of the
property, then from outer to inner. -/
def Precedes (node other : Node) : Prop :=
  Utf8.Before node.owner other.owner ∨
    node.owner = other.owner ∧
      (Utf8.Before node.key other.key ∨ node.key = other.key ∧ node.Outside other)

theorem Precedes.ne {node other : Node} (precedes : node.Precedes other) : node ≠ other := by
  rintro rfl
  rcases precedes with owner | ⟨-, key | ⟨-, outside⟩⟩
  · exact Std.lt_irrefl (Utf8.before_iff_lt.1 owner)
  · exact Std.lt_irrefl (Utf8.before_iff_lt.1 key)
  · exact outside.2 rfl

/-- A line goes from outer to inner. -/
theorem pairwise_line (first : Node) : first.line.Pairwise Outside := by
  induction first using line_induction with
  | step first ih =>
    cases found : first.schema.shape.element? with
    | none =>
      rw [line_eq_of_none found]
      exact List.pairwise_singleton _ _
    | some element =>
      rw [line_eq_of_some found]
      refine List.pairwise_cons.2 ⟨fun inner mem => ?_, ih element found⟩
      have below : first.place ++ [0] <+: inner.place := (leads_of_mem_line _ inner mem).place
      refine ⟨(List.prefix_append _ _).trans below, fun same => ?_⟩
      have longer := below.length_le
      rw [same, List.length_append, List.length_singleton] at longer
      omega

/-- A node that belongs to a declaration is named after it, and its first step is the key of a property. -/
theorem owner_of_mem_within {above node : Node} (mem : node ∈ above.within) : node.owner = above.name := by
  obtain ⟨property, given, mem⟩ := List.mem_flatMap.1 mem
  obtain ⟨i, entry, -, rfl⟩ := mem_properties.1 given
  exact (leads_of_mem_line _ node mem).owner

theorem key_of_mem_line {place : List Nat} {owner key : String} {s : Schema} {node : Node}
    (mem : node ∈ (Node.mk place owner [key] s).line) : node.key = key := by
  obtain ⟨more, steps⟩ := (leads_of_mem_line _ node mem).steps
  rw [Node.key, ← steps]
  rfl

/-- **What belongs to a declaration comes by the keys of its properties**, and then from outer to inner. -/
theorem pairwise_within {above : Node} (distinct : (above.site.properties.map (·.1)).Nodup) :
    above.within.Pairwise Precedes := by
  have ascending : (sortedByKey above.site.properties).zipIdx.Pairwise fun a b => a.1.1 < b.1.1 := by
    have sorted := ascending_sortedByKey distinct
    rw [← List.zipIdx_map_fst 0 (sortedByKey above.site.properties), List.pairwise_map] at sorted
    exact sorted
  refine List.pairwise_flatMap.2 ⟨?_, List.pairwise_map.2 (ascending.imp fun before => ?_)⟩
  · intro property given
    obtain ⟨i, entry, -, rfl⟩ := mem_properties.1 given
    refine (pairwise_line _).imp_of_mem fun mem mem' outside => .inr ⟨?_, .inr ⟨?_, outside⟩⟩
    · rw [(leads_of_mem_line _ _ mem).owner, (leads_of_mem_line _ _ mem').owner]
    · rw [key_of_mem_line mem, key_of_mem_line mem']
  · intro node mem other mem'
    refine .inr ⟨?_, .inl ?_⟩
    · rw [(leads_of_mem_line _ _ mem).owner, (leads_of_mem_line _ _ mem').owner]
    · rw [key_of_mem_line mem, key_of_mem_line mem']
      exact Utf8.before_iff_lt.2 before

/-- What belongs to declarations with ascending names comes in order. -/
theorem pairwise_flatMap_within {nodes : List Node} (ascending : (nodes.map name).Pairwise Utf8.Before)
    (distinct : ∀ node ∈ nodes, (node.site.properties.map (·.1)).Nodup) : (nodes.flatMap within).Pairwise Precedes := by
  refine List.pairwise_flatMap.2 ⟨fun node mem => pairwise_within (distinct node mem), ?_⟩
  refine (List.pairwise_map.1 ascending).imp fun before node mem other mem' => .inl ?_
  rw [owner_of_mem_within mem, owner_of_mem_within mem']
  exact before

end Node

end Document

end SchemaTypes
