import SchemaTypes.Dialect.Go
import SchemaTypes.Proofs.Pass.Coverage
import SchemaTypes.Proofs.Reachable
import SchemaTypes.Proofs.Sheet

/-!
# What a defect points at

A pass fails over nodes that may have been lifted out several rounds before. The defect it fails with still
says where they stand: its id is the name of a node that the document leads to, and the node has what the
defect says. Whatever is on the agenda is a root or stands for the struct of a node (`Document.Source`), so the
nodes below it are reachable; and a refused name is due twice, since one site of that name is declared or
pending and the refused one is still to come (`Covers`).
-/

namespace SchemaTypes
set_option autoImplicit false

open scoped List

namespace Document

/-- A node below a root that is called `id` and stands for no other declaration. -/
structure Met (doc : Document) (id : String) (node : Node) : Prop where
  reachable : doc.Reachable node
  below : node.steps ≠ []
  name : node.name = id
  noReference : node.schema.reference = ""

/-- What a defect says of a document. -/
def Shows (doc : Document) : Defect → Prop
  | .malformed _ _ => False
  | .notStruct id => ∃ root ∈ doc.roots, root.id = id ∧ root.isStruct = false
  | .shapelessObject id =>
    ∃ node, doc.Met id node ∧ node.schema.kind = "object" ∧
      node.schema.additionalProperties = none ∧ node.schema.properties = none
  | .arrayWithoutItems id =>
    ∃ node, doc.Met id node ∧ node.schema.kind = "array" ∧ node.schema.items = none
  | .unknownPrimitive id kind format =>
    ∃ node, doc.Met id node ∧ node.schema.kind = kind ∧ node.schema.format = format ∧
      kind ≠ "object" ∧ kind ≠ "array" ∧ Primitive.ofKind? kind format = none
  | .duplicate id =>
    ∃ node node' : Node, node.place ≠ node'.place ∧ doc.Due node ∧ doc.Due node' ∧
      node.name = id ∧ node'.name = id

variable {doc : Document}

/-- A node without a type shows why, at itself or on the way down from it. -/
theorem Reachable.shows {node : Node} {path : String} {defect : Defect} (reachable : doc.Reachable node)
    (below : node.steps ≠ []) (named : node.name = qualified path node.schema.id)
    (failed : (node.schema.resolve path).result = .error defect) : doc.Shows defect := by
  generalize same : node.schema = s at named failed
  induction path, s using Schema.walk_induction generalizing node with
  | step path s ih =>
    rw [Schema.resolve_eq, Shape.result_resolve] at failed
    -- A map and a sequence fail as their element does, one step below the node.
    have walk {e : Schema} (inside : s.shape.element? = some e)
        (failed : (e.resolve (qualified path s.id)).result = .error defect) : doc.Shows defect := by
      have down := reachable.element (same ▸ inside)
      have named' := (name_element node (node.place ++ [0]) e).trans (congrArg (qualified · e.id) named)
      exact ih e inside down (by simp) rfl named' failed
    have met (noReference : s.reference = "") : doc.Met (qualified path s.id) node :=
      ⟨reachable, below, named, same ▸ noReference⟩
    cases shape : s.shape with
    | map element =>
      rw [shape] at failed
      exact walk (by rw [shape]; rfl) (map_eq_error.1 failed)
    | array element =>
      rw [shape] at failed
      exact walk (by rw [shape]; rfl) (map_eq_error.1 failed)
    | shapeless =>
      rw [shape] at failed
      cases failed
      obtain ⟨noReference, object, nothing⟩ := Schema.of_shape_eq_shapeless shape
      exact ⟨node, met noReference, same ▸ object, same ▸ nothing⟩
    | bareArray =>
      rw [shape] at failed
      cases failed
      obtain ⟨noReference, array, nothing⟩ := Schema.of_shape_eq_bareArray shape
      exact ⟨node, met noReference, same ▸ array, same ▸ nothing⟩
    | plain kind format =>
      rw [shape] at failed
      obtain ⟨noReference, notObject, notArray, rfl, rfl⟩ := Schema.of_shape_eq_plain shape
      have unknown := map_eq_error.1 failed
      unfold Primitive.require at unknown
      split at unknown
      · cases unknown
      · next missing =>
        cases unknown
        exact ⟨node, met noReference, congrArg _ same, congrArg _ same, notObject, notArray, missing⟩
    | reference | struct =>
      rw [shape] at failed
      cases failed

/-- Where a schema comes from that is to be declared: it is a root, or the struct of a node. -/
inductive Source (doc : Document) (s : Schema) : Prop where
  | root (mem : s ∈ doc.roots)
  | node {node : Node} (reachable : doc.Reachable node) (isStruct : s.isStruct = true)
      (shape : node.schema.shape = .struct s.site.properties) (name : node.name = s.id)

namespace Source

variable {s : Schema}

/-- A struct stands at a node, as a root or as what was lifted out. -/
theorem exists_node (source : doc.Source s) (isStruct : s.isStruct = true) :
    ∃ node, doc.Reachable node ∧ node.schema.shape = .struct s.site.properties ∧ node.name = s.id := by
  cases source with
  | root mem =>
    obtain ⟨i, found⟩ := List.mem_iff_getElem?.1 mem
    exact ⟨_, .root found, Schema.shape_eq_site isStruct, rfl⟩
  | node reachable _ shape name => exact ⟨_, reachable, shape, name⟩

/-- What a struct lifts out comes from nodes, as the struct does. -/
theorem lifted (source : doc.Source s) (isStruct : s.isStruct = true) {t : Schema} (mem : t ∈ s.site.lifted) :
    doc.Source t := by
  obtain ⟨node, reachable, shape, name⟩ := source.exists_node isStruct
  obtain ⟨entry, sorted, found⟩ := List.mem_flatMap.1 mem
  obtain ⟨i, at_⟩ := List.mem_iff_getElem?.1 sorted
  have property := reachable.property shape at_
  obtain ⟨below, reached, -, name', shape'⟩ := property.lifted (congrArg (qualified · entry.1) name) found
  exact .node reached (Site.liftedUnder_of_mem_lifted mem).isStruct shape' name'

/-- **A declaration that fails shows why.** -/
theorem shows_of_declare (source : doc.Source s) {defect : Defect} (failed : s.declare.result = .error defect) :
    doc.Shows defect := by
  rcases Schema.not_declared failed with ⟨notStruct, rfl⟩ | ⟨isStruct, entry, mem, unresolved⟩
  · cases source with
    | root mem => exact ⟨s, mem, rfl, notStruct⟩
    | node _ isStruct => exact absurd isStruct (Bool.eq_false_iff.1 notStruct)
  · obtain ⟨node, reachable, shape, name⟩ := source.exists_node isStruct
    obtain ⟨i, found⟩ := List.mem_iff_getElem?.1 mem
    have property := reachable.property shape found
    exact property.shows (List.cons_ne_nil _ _) (congrArg (qualified · entry.1) name) unresolved

end Source

/-- Everything that a pass has at hand comes from the document. -/
def Sourced (doc : Document) (p : Point) : Prop :=
  ∀ s ∈ p.phase.inHand ++ p.agenda.pending, doc.Source s

/-- **Every action keeps the sources.** -/
theorem Sourced.step {p q : Point} (action : Step p q) (sourced : doc.Sourced p) : doc.Sourced q := by
  cases action with
  | @accept agenda next s waiting popped declarations accepted =>
    intro t mem
    apply sourced t
    obtain ⟨-, pending, -⟩ := Agenda.enqueue_eq_ok accepted
    have known : t ∈ waiting ++ insertById s agenda.pending := pending ▸ mem
    show t ∈ s :: waiting ++ agenda.pending
    rcases List.mem_append.1 known with waits | inserted
    · exact List.mem_append_left _ (List.mem_cons_of_mem _ waits)
    · rcases mem_insertById.1 inserted with rfl | pending
      · exact List.mem_append_left _ List.mem_cons_self
      · exact List.mem_append_right _ pending
  | refuse => exact fun t pending => sourced t (List.mem_append_right _ pending)
  | take taken =>
    intro t mem
    obtain ⟨split, -⟩ := Agenda.popMin_eq_some taken
    exact sourced t (split ▸ mem)
  | finish => exact sourced
  | declare declared =>
    obtain ⟨isStruct, -, -, rfl⟩ := Schema.result_declare.1 declared
    intro t mem
    rcases List.mem_append.1 mem with lifted | pending
    · exact (sourced _ List.mem_cons_self).lifted isStruct lifted
    · exact sourced t (List.mem_cons_of_mem _ pending)
  | fail => exact fun t pending => sourced t (List.mem_cons_of_mem _ pending)

/-- A run keeps the sources from its beginning. -/
theorem sourced_of_reaches {p : Point} (run : Reaches doc.start p) : doc.Sourced p := by
  have start : doc.Sourced doc.start := by
    intro s mem
    rcases List.mem_append.1 mem with root | none
    · exact .root root
    · cases none
  exact run.invariant (fun _ _ action => Sourced.step action) start

/-- **A name that is refused is due twice**: one site of this name is declared or pending, and the schema that
is refused is due as well. -/
theorem duplicate_of_refused {agenda : Agenda} {s : Schema} {waiting : List Schema} {popped : List String}
    {declarations : List Declaration}
    (run : Reaches doc.start ⟨agenda, .queue (s :: waiting), popped, declarations⟩)
    (known : s.id ∈ agenda.seen) : List.Duplicate s.id (doc.dueSites.map (·.id)) := by
  obtain ⟨done, covers⟩ := run.covers trivial
  have apart : doc.dueSites ~
      (done ++ agenda.pending.flatMap Schema.dueSites) ++ (s :: waiting).flatMap Schema.dueSites := by
    calc doc.dueSites
      _ ~ done ++ (s :: waiting ++ agenda.pending).flatMap Schema.dueSites := covers.sites
      _ ~ done ++ (agenda.pending ++ s :: waiting).flatMap Schema.dueSites :=
        (List.perm_append_comm.flatMap_right _).append_left done
      _ = _ := by rw [List.flatMap_append, List.append_assoc]
  have earlier : s.id ∈ (done ++ agenda.pending.flatMap Schema.dueSites).map (·.id) := by
    rw [List.map_append]
    rcases covers.seen s.id known with declared | pending
    · exact List.mem_append_left _ declared
    · obtain ⟨t, mem, same⟩ := List.mem_map.1 pending
      have due : t.site ∈ agenda.pending.flatMap Schema.dueSites :=
        List.mem_flatMap.2 ⟨t, mem, t.site_mem_dueSites⟩
      exact List.mem_append_right _ (List.mem_map.2 ⟨t.site, due, same⟩)
  have later : s.id ∈ ((s :: waiting).flatMap Schema.dueSites).map (·.id) := by
    have due : s.site ∈ (s :: waiting).flatMap Schema.dueSites :=
      List.mem_flatMap.2 ⟨s, List.mem_cons_self, s.site_mem_dueSites⟩
    exact List.mem_map.2 ⟨s.site, due, rfl⟩
  have pair := (List.singleton_sublist.2 earlier).append (List.singleton_sublist.2 later)
  rw [← List.map_append] at pair
  have twice := List.duplicate_iff_two_le_count.1 (List.duplicate_iff_sublist.2 pair)
  rw [← (apart.map (·.id)).count_eq] at twice
  exact List.duplicate_iff_two_le_count.2 twice

/-- A failed pass shows why. -/
theorem shows_of_pass {defect : Defect} (failed : doc.pass.ending = .error defect) : doc.Shows defect := by
  obtain ⟨last, run, stopped, -⟩ := doc.reaches_stopped
  rw [failed] at stopped
  rcases run.eq_or_last with rfl | ⟨p, before, action⟩
  · cases stopped
  · cases action with
    | refuse refused =>
      cases stopped
      obtain ⟨known, rfl⟩ := Agenda.enqueue_eq_error.1 refused
      exact exists_due_of_duplicate (duplicate_of_refused before known)
    | fail unresolved =>
      cases stopped
      exact (sourced_of_reaches before _ List.mem_cons_self).shows_of_declare unresolved
    | accept | take | finish | declare => cases stopped

end Document

/-- **Every defect is a real one.** A document that generates no text has what its defect says: a root that is
no struct, two places where a declaration is due under the same name, or below a root a node of the name given
that has no type. -/
theorem defects_are_real (d : Dialect) (doc : Document) {defect : Defect}
    (failed : (doc.generate d).result = .error defect) : doc.Shows defect := by
  rw [Document.result_generate] at failed
  exact Document.shows_of_pass (map_eq_error.1 failed)

/-- A box of trays, each with a width that has no type. -/
def trays : Document where
  name := "trays"
  schemas := [("Box", .struct "" [("trays", {
    kind := "array"
    items := some (.struct "" [("width", { kind := "integer", format := "int16" })]) })])]

theorem trays_shows :
    (trays.generate .go).result = .error (.unknownPrimitive "BoxTraysWidth" "integer" "int16") ∧
      trays.Shows (.unknownPrimitive "BoxTraysWidth" "integer" "int16") := by
  have failed : (trays.generate .go).result = .error (.unknownPrimitive "BoxTraysWidth" "integer" "int16") := by
    decide +kernel
  exact ⟨failed, defects_are_real .go trays failed⟩

end SchemaTypes
