import Mathlib.Data.List.Duplicate
import Mathlib.Data.List.Forall2
import SchemaTypes.Proofs.Flattening

/-!
# Nodes that a document leads to

From a root down, a node is reachable if it is not hidden from view: below a struct stand its properties,
below a map or an array its element, and below anything else nothing. A node is named by the declaration it
belongs to and the ids on the way down from there, which is the path that a resolution passes on. Every site
that comes due stands at a reachable node, and different ones stand at different places.
-/

namespace SchemaTypes
set_option autoImplicit false

namespace Document

/-- A node of a document. -/
structure Node where
  /-- The position of a root, and from there the position of each child on the way down, with properties in
  the order of their keys. -/
  place : List Nat
  /-- The name of the declaration that the node belongs to; a root belongs to its own one. -/
  owner : String
  /-- The ids on the way down from the owner. -/
  steps : List String
  schema : Schema

/-- The name of a node: that of its declaration, followed by each id on the way down. -/
def Node.name (node : Node) : String :=
  node.steps.foldl qualified node.owner

/-- The nodes that a document leads to. -/
inductive Reachable (doc : Document) : Node → Prop where
  | root {i : Nat} {s : Schema} (found : doc.roots[i]? = some s) : Reachable doc ⟨[i], s.id, [], s⟩
  /-- The properties of a struct belong to the declaration of the struct, under their keys. -/
  | property {node : Node} {properties : List (String × Schema)} {i : Nat} {entry : String × Schema}
      (above : Reachable doc node) (shape : node.schema.shape = .struct properties)
      (found : (sortedByKey properties)[i]? = some entry) :
      Reachable doc ⟨node.place ++ [i], node.name, [entry.1], .ofEntry entry⟩
  /-- The element of a map or an array belongs to the same declaration, one step further down. -/
  | element {node : Node} {element : Schema} (above : Reachable doc node)
      (inside : node.schema.shape.element? = some element) :
      Reachable doc ⟨node.place ++ [0], node.owner, node.steps ++ [element.id], element⟩

variable {doc : Document}

theorem name_element (node : Node) (place : List Nat) (element : Schema) :
    (Node.mk place node.owner (node.steps ++ [element.id]) element).name = qualified node.name element.id :=
  List.foldl_append ..

/-- What a node lifts out stands at the node or below it, as the struct of a node with the same name. -/
theorem Reachable.lifted {node : Node} {path : String} {t : Schema} (reachable : doc.Reachable node)
    (named : node.name = qualified path node.schema.id) (mem : t ∈ node.schema.lifted path) :
    ∃ below : Node, doc.Reachable below ∧ node.place <+: below.place ∧ below.name = t.id ∧
      below.schema.shape = .struct t.site.properties := by
  generalize same : node.schema = s at named mem
  induction path, s using Schema.walk_induction generalizing node with
  | step path s ih =>
    rw [Schema.lifted_eq] at mem
    -- A map and a sequence lift out what their element does, one step below the node.
    have walk {e : Schema} (inside : s.shape.element? = some e) (mem : t ∈ e.lifted (qualified path s.id)) :
        ∃ below : Node, doc.Reachable below ∧ node.place <+: below.place ∧ below.name = t.id ∧
          below.schema.shape = .struct t.site.properties := by
      have down := reachable.element (same ▸ inside)
      have named' := (name_element node (node.place ++ [0]) e).trans (congrArg (qualified · e.id) named)
      obtain ⟨below, reached, place, rest⟩ := ih e inside down rfl named' mem
      exact ⟨below, reached, (List.prefix_append _ _).trans place, rest⟩
    cases shape : s.shape with
    | struct properties =>
      rw [shape] at mem
      obtain rfl := List.mem_singleton.1 mem
      exact ⟨node, reachable, List.prefix_refl _, named, same ▸ shape⟩
    | map element =>
      rw [shape] at mem
      exact walk (by rw [shape]; rfl) mem
    | array element =>
      rw [shape] at mem
      exact walk (by rw [shape]; rfl) mem
    | _ =>
      rw [shape] at mem
      cases mem

/-- A declaration is due at the node, since it is a root or a struct. -/
structure Due (doc : Document) (node : Node) : Prop where
  reachable : doc.Reachable node
  declared : node.steps = [] ∨ node.schema.isStruct = true

/-- Declarations with the names `ids` are due at different places, at `place` or below. -/
def Placed (doc : Document) (place : List Nat) (ids : List String) : Prop :=
  ∃ nodes : List Node, nodes.map Node.name = ids ∧ (nodes.map (·.place)).Nodup ∧
    ∀ node ∈ nodes, doc.Due node ∧ place <+: node.place

theorem Placed.nil (place : List Nat) : doc.Placed place [] :=
  ⟨[], rfl, .nil, by simp⟩

theorem Placed.weaken {place place' : List Nat} {ids : List String} (placed : doc.Placed place' ids)
    (below : place <+: place') : doc.Placed place ids := by
  obtain ⟨nodes, names, distinct, due⟩ := placed
  exact ⟨nodes, names, distinct, fun node mem => (due node mem).imp_right below.trans⟩

/-- A place is at or below at most one child of another place. -/
theorem child_unique {place below : List Nat} {i j : Nat} (first : place ++ [i] <+: below)
    (second : place ++ [j] <+: below) : i = j := by
  have same : place ++ [i] <+: place ++ [j] := List.prefix_of_prefix_length_le first second (by simp)
  simpa using same

/-- What is due at or below different children of a place is due at different places. The children are counted
from `first`. -/
theorem Placed.children {α : Type} {f : α → List String} {place : List Nat} {xs : List α} {first : Nat}
    (each : ∀ i x, xs[i]? = some x → doc.Placed (place ++ [first + i]) (f x)) :
    ∃ nodes : List Node, nodes.map Node.name = xs.flatMap f ∧ (nodes.map (·.place)).Nodup ∧
      ∀ node ∈ nodes, doc.Due node ∧ ∃ i, first ≤ i ∧ place ++ [i] <+: node.place := by
  induction xs generalizing first with
  | nil => exact ⟨[], rfl, .nil, by simp⟩
  | cons x more ih =>
    obtain ⟨nodes, names, distinct, due⟩ := each 0 x rfl
    have others (i : Nat) (y : α) (found : more[i]? = some y) : doc.Placed (place ++ [first + 1 + i]) (f y) := by
      rw [Nat.add_assoc, Nat.add_comm 1 i]
      exact each (i + 1) y found
    obtain ⟨nodes', names', distinct', due'⟩ := ih others
    refine ⟨nodes ++ nodes', ?_, ?_, ?_⟩
    · rw [List.map_append, names, names', List.flatMap_cons]
    · rw [List.map_append]
      refine List.nodup_append.2 ⟨distinct, distinct', ?_⟩
      intro p mem q mem' same
      obtain ⟨node, member, rfl⟩ := List.mem_map.1 mem
      obtain ⟨node', member', rfl⟩ := List.mem_map.1 mem'
      obtain ⟨-, i, later, below⟩ := due' node' member'
      have index := child_unique (due node member).2 (same ▸ below)
      omega
    · intro node mem
      rcases List.mem_append.1 mem with mem | mem
      · obtain ⟨here, below⟩ := due node mem
        exact ⟨here, first, Nat.le_refl _, below⟩
      · obtain ⟨here, i, later, below⟩ := due' node mem
        exact ⟨here, i, by omega, below⟩

/-- What is due at a node is due at another place than what is due at or below its children. -/
theorem Placed.cons {α : Type} {f : α → List String} {node : Node} {xs : List α} (here : doc.Due node)
    (each : ∀ i x, xs[i]? = some x → doc.Placed (node.place ++ [i]) (f x)) :
    doc.Placed node.place (node.name :: xs.flatMap f) := by
  have children : ∀ i x, xs[i]? = some x → doc.Placed (node.place ++ [0 + i]) (f x) := by
    simpa only [Nat.zero_add] using each
  obtain ⟨nodes, names, distinct, due⟩ := Placed.children children
  refine ⟨node :: nodes, ?_, ?_, ?_⟩
  · rw [List.map_cons, names]
  · refine List.nodup_cons.2 ⟨?_, distinct⟩
    intro mem
    obtain ⟨other, mem, same⟩ := List.mem_map.1 mem
    obtain ⟨-, i, -, below⟩ := due other mem
    have same : other.place = node.place := same
    have longer := below.length_le
    rw [same, List.length_append, List.length_singleton] at longer
    omega
  · intro other mem
    rcases List.mem_cons.1 mem with rfl | mem
    · exact ⟨here, List.prefix_refl _⟩
    · obtain ⟨there, i, -, below⟩ := due other mem
      exact ⟨there, (List.prefix_append _ _).trans below⟩

/-- **What a struct leads to is due at different places**, at or below the struct. -/
theorem Placed.flatten {node : Node} {site : Site} (reachable : doc.Reachable node)
    (shape : node.schema.shape = .struct site.properties) (name : node.name = site.id) :
    doc.Placed node.place (site.flatten.map (·.id)) := by
  induction site using Site.lifted_induction generalizing node with
  | step site ih =>
    have ids : site.flatten.map (·.id) = node.name :: (sortedByKey site.properties).flatMap fun entry =>
        ((Schema.ofEntry entry).lifted site.id).flatMap fun s => s.site.flatten.map (·.id) := by
      rw [Site.flatten_eq, Site.below, Site.lifted, List.map_cons, List.flatMap_assoc, List.map_flatMap, name]
      simp only [List.map_flatMap]
    rw [ids]
    apply Placed.cons ⟨reachable, .inr (Schema.shape_eq_struct.1 shape).1⟩
    intro i entry found
    rcases Schema.lifted_eq_nil_or site.id (Schema.ofEntry entry) with none | ⟨t, one⟩
    · rw [none]
      exact Placed.nil _
    · have mem : t ∈ (Schema.ofEntry entry).lifted site.id := one ▸ List.mem_singleton_self t
      have lifted : t ∈ site.lifted := List.mem_flatMap.2 ⟨entry, List.mem_of_getElem? found, mem⟩
      have property := reachable.property shape found
      obtain ⟨below, reached, place, name', shape'⟩ := property.lifted (congrArg (qualified · entry.1) name) mem
      rw [one, List.flatMap_singleton]
      exact (ih t lifted reached shape' name').weaken place

/-- **All sites that come due stand at different places.** -/
theorem placed_dueSites (doc : Document) : doc.Placed [] (doc.dueSites.map (·.id)) := by
  have each (i : Nat) (root : Schema) (found : doc.roots[i]? = some root) :
      doc.Placed ([] ++ [0 + i]) (root.dueSites.map (·.id)) := by
    have here : doc.Reachable ⟨[i], root.id, [], root⟩ := .root found
    rw [Nat.zero_add, List.nil_append, Schema.dueSites]
    split
    · next isStruct => exact Placed.flatten here (Schema.shape_eq_site isStruct) rfl
    · refine ⟨[⟨[i], root.id, [], root⟩], rfl, List.nodup_singleton _, ?_⟩
      intro node mem
      obtain rfl := List.mem_singleton.1 mem
      exact ⟨⟨here, .inl rfl⟩, List.prefix_refl _⟩
  obtain ⟨nodes, names, distinct, due⟩ := Placed.children each
  rw [dueSites, List.map_flatMap]
  exact ⟨nodes, names, distinct, fun node mem => ⟨(due node mem).1, List.nil_prefix⟩⟩

/-- **A name that comes due twice is due at two places.** -/
theorem exists_due_of_duplicate {id : String} (twice : List.Duplicate id (doc.dueSites.map (·.id))) :
    ∃ node node' : Node, node.place ≠ node'.place ∧ doc.Due node ∧ doc.Due node' ∧
      node.name = id ∧ node'.name = id := by
  obtain ⟨nodes, names, distinct, due⟩ := doc.placed_dueSites
  rw [← names] at twice
  obtain ⟨pair, within, named⟩ := List.sublist_map_iff.1 (List.duplicate_iff_sublist.1 twice)
  obtain ⟨node, others, rfl, name, rest⟩ := List.map_eq_cons_iff.1 named.symm
  obtain ⟨node', more, rfl, name', last⟩ := List.map_eq_cons_iff.1 rest
  obtain rfl := List.map_eq_nil_iff.1 last
  have apart : node.place ≠ node'.place := by simpa using distinct.sublist (within.map (·.place))
  have due (other : Node) (mem : other ∈ [node, node']) : doc.Due other := (due other (within.subset mem)).1
  exact ⟨node, node', apart, due node (by simp), due node' (by simp), name, name'⟩

end Document

end SchemaTypes
