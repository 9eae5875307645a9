import SchemaTypes.Dialect.Go
import SchemaTypes.Proofs.Nodes
import SchemaTypes.Proofs.Pass.Flattening

/-!
# What a run warns of

Properties beside the type of additional properties are lost, and a warning is all that tells of them. The warnings of
a resolution are those of the nodes on one line; a declaration has the warnings of its properties, and a pass those of
its declarations. Since every node that loses its properties stands on a line below one declaration, each is reported
once, and the properties of every other object are the fields of one declaration.
-/

namespace SchemaTypes
set_option autoImplicit false

open scoped List

namespace Event

/-- The warnings among events. -/
def warnings (events : List Event) : List Event :=
  events.filter fun event => event.level = .warn

@[simp] theorem warnings_append (events later : List Event) :
    warnings (events ++ later) = warnings events ++ warnings later :=
  List.filter_append ..

theorem warnings_flatMap {α : Type} (xs : List α) (events : α → List Event) :
    warnings (xs.flatMap events) = xs.flatMap fun x => warnings (events x) :=
  List.filter_flatMap ..

end Event

/-- The events of a shape, whether it has a type or not. -/
theorem Shape.events_resolve (name : String) (shape : Shape) :
    (shape.resolve name).events =
      match shape with
      | .map element discarded => (reportDiscarded name discarded).events ++ (element.resolve name).events
      | .struct properties => [.hoisting name properties.length]
      | .array element => (element.resolve name).events
      | _ => [] := by
  cases shape with
  | map element discarded =>
    rw [resolve, Traced.bind_of_ok _ (result_reportDiscarded name discarded)]
    dsimp only
    rw [Traced.bind_pure]
  | array element =>
    rw [resolve]
    dsimp only
    rw [Traced.bind_pure]
  | plain kind format =>
    rw [resolve, Traced.bind_pure]
    rfl
  | _ => rfl

namespace Document.Node

/-- Whether the properties of a node are lost, since it is a map. -/
def discards (node : Node) : Bool :=
  !node.schema.isReference && node.schema.kind == "object" && node.schema.additionalProperties.isSome &&
    node.schema.properties.isSome

/-- The warning for a node. -/
def warning (node : Node) : Event :=
  .discarding node.name

theorem discards_iff_shape {node : Node} :
    node.discards ↔ ∃ element properties, node.schema.shape = .map element (some properties) := by
  rw [discards, Schema.isReference, Schema.shape_eq]
  by_cases noReference : node.schema.reference = ""
  · rw [if_neg (Decidable.not_not.2 noReference)]
    by_cases object : node.schema.kind = "object"
    · rw [if_pos object]
      cases node.schema.additionalProperties <;> cases node.schema.properties <;> simp [noReference, object]
    · rw [if_neg object]
      by_cases array : node.schema.kind = "array"
      · cases node.schema.items <;> simp [array]
      · simp [object, array]
  · simp [noReference]

theorem discards_iff {node : Node} :
    node.discards ↔ node.schema.reference = "" ∧ node.schema.kind = "object" ∧
      node.schema.additionalProperties ≠ none ∧ node.schema.properties ≠ none := by
  simp [discards, Schema.isReference, Option.ne_none_iff_isSome, and_assoc]

theorem isStruct_iff {node : Node} :
    node.isStruct ↔ node.schema.reference = "" ∧ node.schema.kind = "object" ∧
      node.schema.additionalProperties = none ∧ node.schema.properties ≠ none := by
  simp [isStruct, Schema.isStruct, Schema.isReference, Option.ne_none_iff_isSome, and_assoc]

/-- **A resolution warns of the nodes on its line that lose their properties**, from outer to inner. -/
theorem warnings_line {node : Node} {path : String} (named : node.name = qualified path node.schema.id) :
    Event.warnings (node.schema.resolve path).events = (node.line.filter discards).map warning := by
  induction node using line_induction generalizing path with
  | step node ih =>
    have inner {element : Schema} (found : node.schema.shape.element? = some element) :
        Event.warnings (element.resolve node.name).events =
          ((node.inside element).line.filter discards).map warning :=
      ih element found (name_element node _ element)
    have keeps (other : ∀ element properties, node.schema.shape ≠ .map element (some properties)) :
        ¬node.discards := fun discards => by
      obtain ⟨element, properties, shape⟩ := discards_iff_shape.1 discards
      exact other element properties shape
    rw [Schema.resolve_eq, Shape.events_resolve, ← named]
    cases shape : node.schema.shape with
    | map element discarded =>
      have found : node.schema.shape.element? = some element := by rw [shape]; rfl
      dsimp only
      rw [line_eq_of_some found, Event.warnings_append, inner found]
      cases discarded with
      | none =>
        rw [List.filter_cons_of_neg (keeps (by rw [shape]; nofun))]
        rfl
      | some properties =>
        rw [List.filter_cons_of_pos (discards_iff_shape.2 ⟨element, properties, shape⟩)]
        rfl
    | array element =>
      have found : node.schema.shape.element? = some element := by rw [shape]; rfl
      dsimp only
      rw [line_eq_of_some found, inner found, List.filter_cons_of_neg (keeps (by rw [shape]; nofun))]
    | _ =>
      rw [line_eq_of_none (by rw [shape]; rfl), List.filter_cons_of_neg (keeps (by rw [shape]; nofun))]
      rfl

end Document.Node

/-- Properties that resolve have the events of each. -/
theorem events_resolveFields {owner : String} {entries : List (String × Schema)} {value : List Field × List Schema}
    (resolved : (resolveFields owner entries).result = .ok value) :
    (resolveFields owner entries).events =
      entries.flatMap fun entry => ((Schema.ofEntry entry).resolve owner).events := by
  induction entries generalizing value with
  | nil => rfl
  | cons entry more ih =>
    rw [resolveFields.eq_def] at resolved ⊢
    obtain ⟨first, done, rest⟩ := Traced.result_bind_eq_ok.1 resolved
    obtain ⟨others, done', _⟩ := Traced.result_bind_eq_ok.1 rest
    dsimp only
    rw [Traced.bind_of_ok _ done, Traced.bind_of_ok _ done', ih done', List.flatMap_cons]
    exact congrArg (_ ++ ·) (List.append_nil _)

/-- The warnings of a declaration, property by property. -/
def Site.warnings (site : Site) : List Event :=
  (sortedByKey site.properties).flatMap fun entry =>
    Event.warnings ((Schema.ofEntry entry).resolve site.id).events

theorem Schema.warnings_declare {s : Schema} {value : Declaration × List Schema}
    (declared : s.declare.result = .ok value) : Event.warnings s.declare.events = s.site.warnings := by
  obtain ⟨isStruct, -, -, -⟩ := Schema.result_declare.1 declared
  rw [declare, if_pos isStruct] at declared ⊢
  obtain ⟨fields, resolved, rest⟩ := Traced.result_bind_eq_ok.1 declared
  rw [Traced.bind_of_ok _ resolved, events_resolveFields resolved, Event.warnings_append, Event.warnings_flatMap]
  exact List.append_nil _

/-- A declaration warns of the nodes that belong to it and lose their properties. -/
theorem Document.Node.warnings_site (node : Node) :
    node.site.warnings = (node.within.filter discards).map warning := by
  rw [within, List.filter_flatMap, List.map_flatMap, Site.warnings]
  exact (node.flatMap_properties fun i entry => (warnings_line rfl).symm).symm

namespace Agenda

/-- Nothing is warned of when schemas are put on an agenda. -/
theorem warnings_enqueueAll (agenda : Agenda) (schemas : List Schema) :
    Event.warnings (agenda.enqueueAll schemas).2.events = [] := by
  induction schemas generalizing agenda with
  | nil => rfl
  | cons s more ih =>
    simp only [enqueueAll]
    split
    · rfl
    · next next _ =>
      rw [Traced.bind_of_ok _ (Traced.result_report _), Event.warnings_append, ih next]
      rfl

/-- **An agenda that is drained to its end warns as its declarations do**, in the order in which they are made. -/
theorem drain_warns (agenda : Agenda) (drained : agenda.drain.ending = .ok ()) :
    ∃ done : List Site, done ~ agenda.pending.flatMap (fun s => s.site.flatten) ∧
      agenda.drain.declarations = done.map Site.declaration ∧
      Event.warnings agenda.drain.events = done.flatMap Site.warnings := by
  fun_induction drain agenda with
  | case1 agenda done => exact ⟨[], by simp [popMin_eq_none.1 done], rfl, rfl⟩
  | case2 => cases drained
  | case3 => cases drained
  | case4 agenda s rest taken declaration hoisted declared _ queued events accepted later ih =>
    obtain ⟨-, -, rfl, rfl⟩ := Schema.result_declare.1 declared
    obtain ⟨done, sites, made, warned⟩ := ih drained
    refine ⟨s.site :: done, ?_, ?_, ?_⟩
    · have after := (accepts_enqueueAll accepted).pending.flatMap_right fun t => t.site.flatten
      rw [List.flatMap_append] at after
      rw [(popMin_eq_some taken).1, List.flatMap_cons, Site.flatten_eq, List.cons_append]
      exact .cons _ (sites.trans after)
    · rw [made, List.map_cons]
    · rw [Event.warnings_append, Event.warnings_append, Schema.warnings_declare declared, warnings_enqueueAll, warned,
        List.append_nil, List.flatMap_cons]

end Agenda

namespace Document

variable {doc : Document}

/-- A pass that comes to its end warns as its declarations do. -/
theorem pass_warns (done : doc.pass.ending = .ok ()) :
    ∃ sites : List Site, sites ~ doc.sites ∧ doc.pass.declarations = sites.map Site.declaration ∧
      Event.warnings doc.pass.events = sites.flatMap Site.warnings := by
  obtain ⟨pending, drained, made⟩ := drained_of_done done
  obtain ⟨sites, same, declared, warned⟩ := doc.seeded.drain_warns drained
  refine ⟨sites, same.trans (pending.flatMap_right _), made.trans declared, ?_⟩
  rw [← warned]
  cases seeding : (Agenda.empty.enqueueAll doc.roots).2.result with
  | error defect =>
    rw [(pass_of_refused seeding).1] at done
    cases done
  | ok =>
    simp only [pass, seeding, Event.warnings_append, Agenda.warnings_enqueueAll, List.nil_append]
    rfl

/-- The declarations of a pass that comes to its end stand for nodes, and so do its warnings. -/
theorem pass_nodes (done : doc.pass.ending = .ok ()) :
    ∃ emitted : List Node, emitted ~ doc.structNodes ∧
      doc.pass.declarations = emitted.map (fun node => node.site.declaration) ∧
      Event.warnings doc.pass.events = ((emitted.flatMap Node.within).filter Node.discards).map Node.warning := by
  obtain ⟨sites, same, declared, warned⟩ := pass_warns done
  rw [← doc.site_structNodes] at same
  -- An order of the sites is the order of some nodes.
  have ordered : Relation.Comp (· = List.map Node.site ·) (· ~ ·) sites doc.structNodes := by
    rw [List.eq_map_comp_perm]
    exact same
  obtain ⟨emitted, rfl, moved⟩ := ordered
  refine ⟨emitted, moved, ?_, ?_⟩
  · rw [declared, List.map_map]
    rfl
  · rw [warned, List.flatMap_map, List.filter_flatMap, List.map_flatMap]
    exact List.flatMap_congr fun node _ => node.warnings_site

/-- The nodes that lose their properties all belong to one of the declared structs. -/
theorem mem_discarding (structs : ∀ root ∈ doc.roots, root.isStruct = true) {emitted : List Node}
    (moved : emitted ~ doc.structNodes) {node : Node} :
    node ∈ (emitted.flatMap Node.within).filter Node.discards ↔ doc.Reachable node ∧ node.discards := by
  rw [List.mem_filter, List.mem_flatMap]
  refine and_congr_left fun discards => ⟨?_, fun reachable => ?_⟩
  · rintro ⟨above, mem, within⟩
    obtain ⟨reachable, isStruct⟩ := (mem_structNodes structs).1 (moved.mem_iff.1 mem)
    exact reachable.of_mem_within isStruct within
  · rcases reachable.mem_structNodes_or structs with declared | ⟨above, declared, within⟩
    · obtain ⟨-, -, given, -⟩ := Node.discards_iff.1 discards
      obtain ⟨-, -, absent, -⟩ := Node.isStruct_iff.1 ((mem_structNodes structs).1 declared).2
      exact absurd absent given
    · exact ⟨above, moved.mem_iff.2 declared, within⟩

end Document

theorem Document.warnings_generate (d : Dialect) (doc : Document) :
    Event.warnings (doc.generate d).events = Event.warnings doc.pass.events := by
  unfold generate
  dsimp only
  rw [Traced.bind_pure, Sheet.events_writeDocument]
  split
  · rfl
  · rw [Event.warnings_append]
    exact List.append_nil _

/-- A site whose properties have types has a field for each of them, in the order of their keys. -/
theorem Site.Resolves.keys {site : Site} (resolves : site.Resolves) :
    site.declaration.fields.map Field.key = (sortedByKey site.properties).map Prod.fst := by
  rw [declaration, List.map_filterMap, ← List.filterMap_eq_map]
  refine List.filterMap_congr fun entry mem => ?_
  obtain ⟨r, resolved⟩ := resolves entry (mem_sortedByKey.1 mem)
  simp [field?, resolved]

open Document (Node)

/-- **Discarded properties are always reported.** If a document generates a text, its warnings are those of the
reachable objects without a reference that have both a type of additional properties and properties: one for each,
with its qualified name as the value `schema`, by the name of the declaration, then by the key of the property, then
from outer to inner. The declarations of the text are those of the reachable structs, one for each, with a field for
every property. So the properties of a reachable object without a reference are declared, or else reported. -/
theorem discarded_properties_reported (d : Dialect) {doc : Document} (distinct : doc.DistinctKeys) {text : String}
    (generated : (doc.generate d).result = .ok text) :
    ∃ emitted discarding : List Node,
      Event.warnings (doc.generate d).events = discarding.map (fun node => .discarding node.name) ∧
      (Event.warnings (doc.generate d).events).map Event.fields = discarding.map (fun node => [("schema", node.name)]) ∧
      (∀ node, node ∈ discarding ↔
        doc.Reachable node ∧ node.schema.reference = "" ∧ node.schema.kind = "object" ∧
          node.schema.additionalProperties ≠ none ∧ node.schema.properties ≠ none) ∧
      discarding.Nodup ∧ discarding.Pairwise Node.Precedes ∧
      text = d.header doc.name ++ d.spellDeclarations (emitted.map fun node => node.site.declaration) ++ d.footer ∧
      (∀ node, node ∈ emitted ↔
        doc.Reachable node ∧ node.schema.reference = "" ∧ node.schema.kind = "object" ∧
          node.schema.additionalProperties = none ∧ node.schema.properties ≠ none) ∧
      emitted.Nodup ∧ (emitted.map Node.name).Pairwise Utf8.Before ∧
      (∀ node ∈ emitted, node.site.declaration.id = node.name ∧
        node.site.declaration.fields.map Field.key = (sortedByKey node.site.properties).map Prod.fst) ∧
      ∀ node, doc.Reachable node → node.schema.reference = "" → node.schema.kind = "object" →
        node.schema.properties ≠ none →
          (node ∈ emitted ∧ node ∉ discarding) ∨ (node ∈ discarding ∧ node ∉ emitted) := by
  rw [Document.result_generate] at generated
  obtain ⟨⟨⟩, done, rfl⟩ := map_eq_ok.1 generated
  obtain ⟨structs, resolve, -⟩ := doc.ending_pass.1 done
  obtain ⟨emitted, moved, declared, warned⟩ := Document.pass_nodes done
  have isEmitted {node : Node} : node ∈ emitted ↔ doc.Reachable node ∧ node.isStruct :=
    moved.mem_iff.trans (Document.mem_structNodes structs)
  have isDiscarding {node : Node} :
      node ∈ (emitted.flatMap Node.within).filter Node.discards ↔
        doc.Reachable node ∧ node.discards := Document.mem_discarding structs moved
  have names : emitted.map Node.name = doc.pass.declarations.map (·.id) := by
    rw [declared, List.map_map]
    rfl
  have ascending : (emitted.map Node.name).Pairwise Utf8.Before := by
    rw [names]
    exact doc.ascending_declarations.imp Utf8.before_iff_lt.2
  have keys : ∀ node ∈ emitted, (node.site.properties.map (·.1)).Nodup := by
    intro node mem
    obtain ⟨reachable, isStruct⟩ := isEmitted.1 mem
    exact reachable.nodup_keys distinct isStruct
  have inOrder := (Node.pairwise_flatMap_within ascending keys).filter Node.discards
  refine ⟨emitted, (emitted.flatMap Node.within).filter Node.discards, ?_, ?_, ?_, ?_, inOrder, ?_,
    ?_, ?_, ascending, ?_, ?_⟩
  · rw [Document.warnings_generate, warned]
    rfl
  · rw [Document.warnings_generate, warned, List.map_map]
    rfl
  · intro node
    rw [isDiscarding, Node.discards_iff]
  · exact inOrder.imp Node.Precedes.ne
  · rw [declared]
  · intro node
    rw [isEmitted, Node.isStruct_iff]
  · exact (names ▸ doc.distinct_ids).of_map
  · intro node mem
    refine ⟨rfl, Site.Resolves.keys (resolve _ ?_)⟩
    rw [← doc.site_structNodes]
    exact List.mem_map_of_mem (moved.mem_iff.1 mem)
  · intro node reachable noReference object given
    rw [isEmitted, isDiscarding, Node.isStruct_iff, Node.discards_iff]
    by_cases map : node.schema.additionalProperties = none
    · exact .inl ⟨⟨reachable, noReference, object, map, given⟩, fun discarding => discarding.2.2.2.1 map⟩
    · exact .inr ⟨⟨reachable, noReference, object, map, given⟩, fun struct => map struct.2.2.2.1⟩

/-- A lot has an area beside the type of additional properties. -/
def lot : Schema where
  id := "lot"
  kind := "object"
  additionalProperties := some { kind := "string" }
  properties := some [("area", { kind := "string" })]

/-- Zones have a name beside the lots in them. -/
def zones : Schema where
  kind := "object"
  additionalProperties := some { id := "lots", kind := "array", items := some lot }
  properties := some [("name", { kind := "string" })]

/-- A depot with zones. -/
def depot : Document where
  name := "depot"
  schemas := [("Depot", .struct "" [("zones", zones)])]

example : Event.warnings (depot.generate .go).events =
    [.discarding "DepotZones", .discarding "DepotZonesLotsLot"] := by decide +kernel

theorem distinctKeys_depot : depot.DistinctKeys where
  keys := by simp [depot]
  schemas := by
    have word : Schema.DistinctKeys { kind := "string" } := .intro nofun nofun nofun nofun
    have inner : lot.DistinctKeys := by
      refine .intro nofun ?_ ?_ ?_ <;> rintro _ ⟨⟩
      · exact word
      · simp
      · simpa using word
    have lots : Schema.DistinctKeys { id := "lots", kind := "array", items := some lot } := by
      refine .intro ?_ nofun nofun nofun
      rintro _ ⟨⟩
      exact inner
    have outer : zones.DistinctKeys := by
      refine .intro nofun ?_ ?_ ?_ <;> rintro _ ⟨⟩
      · exact lots
      · simp
      · simpa using word
    refine List.forall_mem_singleton.2 (.intro nofun nofun ?_ ?_) <;> rintro _ ⟨⟩
    · simp
    · simpa using outer

/-- The area of the lots is lost, and reported. -/
theorem depot_reports :
    depot.DistinctKeys ∧ (∃ text, (depot.generate .go).result = .ok text) ∧
      .discarding "DepotZonesLotsLot" ∈ Event.warnings (depot.generate .go).events := by
  have generated : (depot.generate .go).result.isOk = true := by decide +kernel
  have sorted : (sortedByKey [("zones", zones)])[0]? = some ("zones", zones) := by simp [sortedByKey]
  have given : depot.roots[0]? = some (.struct "Depot" [("zones", zones)]) := rfl
  have reachable : depot.Reachable ⟨[0, 0, 0, 0], "Depot", ["zones", "lots", "lot"], lot⟩ :=
    (((Document.Reachable.root given).property rfl sorted).element rfl).element rfl
  cases written : (depot.generate .go).result with
  | error defect =>
    rw [written] at generated
    cases generated
  | ok text =>
    obtain ⟨_, discarding, warned, -, isDiscarding, -⟩ := discarded_properties_reported .go distinctKeys_depot written
    have mem := (isDiscarding _).2 ⟨reachable, rfl, rfl, nofun, nofun⟩
    have reported := List.mem_map_of_mem (f := fun node => Event.discarding node.name) mem
    exact ⟨distinctKeys_depot, ⟨text, rfl⟩, warned ▸ reported⟩

end SchemaTypes
