import SchemaTypes.Proofs.Resolution

/-!
# The walk to the core of a type

From a map the walk goes on to its element, from an array to its items, and it stops at the first node that
is neither. That last node alone decides whether there is a type: it gives the core, and every step on the
way wraps it once more. The names on the way make up the name of what is lifted out and the name of what is
at fault. Neither the walk nor what stands at its end mentions a resolution; `resolve_follows_walk` says that
resolutions are just this.
-/

namespace SchemaTypes
set_option autoImplicit false

/-- What one step of a walk makes of the type behind it. -/
inductive Wrapper where
  | map
  | sequence
deriving DecidableEq, Repr

/-- A type inside a wrapper. -/
def Wrapper.around : Wrapper → TypeExpr → TypeExpr
  | map => .map
  | sequence => .sequence

/-- A type inside several wrappers, the first one outermost. -/
def wrapped (wrappers : List Wrapper) (core : TypeExpr) : TypeExpr :=
  wrappers.foldr Wrapper.around core

/-- The primitive type of a kind and a format is the one in the table. -/
theorem Primitive.ofKind?_eq_some {kind format : String} {type : Primitive} :
    ofKind? kind format = some type ↔ ((kind, format), type) ∈ table := by
  constructor
  · intro found
    obtain ⟨before, after, split, -⟩ := List.lookup_eq_some_iff.1 found
    rw [split]
    exact List.mem_append_right _ List.mem_cons_self
  · intro listed
    -- No kind and format stand twice in the table, so the entry that is found is this one.
    have all : ∀ entry ∈ table, ofKind? entry.1.1 entry.1.2 = some entry.2 := by decide
    exact all _ listed

namespace Schema

/-- One step of a walk. A reference leads nowhere, whatever else it has. -/
inductive LeadsTo (s : Schema) : Wrapper → Schema → Prop where
  | element {next : Schema} (noReference : s.reference = "") (object : s.kind = "object")
      (found : s.additionalProperties = some next) : LeadsTo s .map next
  | items {next : Schema} (noReference : s.reference = "") (array : s.kind = "array")
      (found : s.items = some next) : LeadsTo s .sequence next

/-- The walk from a schema: the nodes it leaves behind, each with its wrapper, and the node it stops at. -/
inductive Walk : Schema → List (Schema × Wrapper) → Schema → Prop where
  | stop {s : Schema} (nowhere : ∀ wrapper next, ¬ s.LeadsTo wrapper next) : Walk s [] s
  | go {s next last : Schema} {wrapper : Wrapper} {passed : List (Schema × Wrapper)}
      (step : s.LeadsTo wrapper next) (rest : Walk next passed last) : Walk s ((s, wrapper) :: passed) last

/-- The name under which nodes are met one after the other: the path, then every id in its exported form. -/
def nameAlong (path : String) (nodes : List Schema) : String :=
  path ++ String.join (nodes.map fun node => exported node.id)

theorem nameAlong_cons (path : String) (node : Schema) (nodes : List Schema) :
    nameAlong path (node :: nodes) = nameAlong (qualified path node.id) nodes := by
  rw [nameAlong, List.map_cons, String.join_cons, ← String.append_assoc]
  rfl

theorem nameAlong_snoc (path : String) (nodes : List Schema) (node : Schema) :
    nameAlong path (nodes ++ [node]) = qualified (nameAlong path nodes) node.id := by
  simp [nameAlong, qualified, String.append_assoc]

/-- What the last node of a walk stands for, and the schema that is lifted out for it under `name`. -/
inductive Core (name : String) (last : Schema) : TypeExpr → Option Schema → Prop where
  | reference (isReference : last.reference ≠ "") : Core name last (.reference last.reference) none
  | struct {properties : List (String × Schema)} (noReference : last.reference = "") (object : last.kind = "object")
      (noElement : last.additionalProperties = none) (found : last.properties = some properties) :
      Core name last (.named name) (some (struct name properties))
  | primitive {type : Primitive} (noReference : last.reference = "") (notObject : last.kind ≠ "object")
      (notArray : last.kind ≠ "array") (listed : ((last.kind, last.format), type) ∈ Primitive.table) :
      Core name last (.primitive type) none

/-- Why the last node of a walk stands for nothing. -/
inductive Fault (name : String) (last : Schema) : Defect → Prop where
  | shapeless (noReference : last.reference = "") (object : last.kind = "object")
      (noElement : last.additionalProperties = none) (noProperties : last.properties = none) :
      Fault name last (.shapelessObject name)
  | bareArray (noReference : last.reference = "") (array : last.kind = "array") (noItems : last.items = none) :
      Fault name last (.arrayWithoutItems name)
  | unlisted (noReference : last.reference = "") (notObject : last.kind ≠ "object") (notArray : last.kind ≠ "array")
      (unlisted : ∀ type, ((last.kind, last.format), type) ∉ Primitive.table) :
      Fault name last (.unknownPrimitive name last.kind last.format)

variable {s last : Schema} {passed : List (Schema × Wrapper)}

/-- A step goes to the element of a map or of an array. -/
theorem LeadsTo.shape {wrapper : Wrapper} {next : Schema} (step : s.LeadsTo wrapper next) :
    (∃ discarded, wrapper = .map ∧ s.shape = .map next discarded) ∨
      (wrapper = .sequence ∧ s.shape = .array next) := by
  rw [shape_eq]
  cases step with
  | element noReference object found => simp [noReference, object, found]
  | items noReference array found => simp [noReference, array, found]

/-- There is one step at most. -/
theorem LeadsTo.unique {wrapper wrapper' : Wrapper} {next next' : Schema} (step : s.LeadsTo wrapper next)
    (step' : s.LeadsTo wrapper' next') : wrapper = wrapper' ∧ next = next' := by
  rcases step.shape with ⟨_, rfl, shape⟩ | ⟨rfl, shape⟩ <;>
    rcases step'.shape with ⟨_, rfl, shape'⟩ | ⟨rfl, shape'⟩ <;> cases shape.symm.trans shape' <;> exact ⟨rfl, rfl⟩

/-- Every walk comes to its end. -/
theorem exists_walk (s : Schema) : ∃ passed last, s.Walk passed last := by
  induction "", s using walk_induction with
  | step _ s ih =>
    by_cases ends : ∃ wrapper next, s.LeadsTo wrapper next
    · obtain ⟨wrapper, next, step⟩ := ends
      have inside : s.shape.element? = some next := by
        rcases step.shape with ⟨_, -, shape⟩ | ⟨-, shape⟩ <;> rw [shape] <;> rfl
      obtain ⟨passed, last, rest⟩ := ih next inside
      exact ⟨_, last, .go step rest⟩
    · exact ⟨[], s, .stop fun wrapper next step => ends ⟨wrapper, next, step⟩⟩

/-- There is one walk from every schema. -/
theorem Walk.unique {passed' : List (Schema × Wrapper)} {last' : Schema} (walk : s.Walk passed last)
    (walk' : s.Walk passed' last') : passed' = passed ∧ last' = last := by
  induction walk generalizing passed' with
  | stop nowhere =>
    cases walk' with
    | stop => exact ⟨rfl, rfl⟩
    | go step _ => exact absurd step (nowhere _ _)
  | go step _ ih =>
    cases walk' with
    | stop nowhere => exact absurd step (nowhere _ _)
    | go step' rest' =>
      obtain ⟨rfl, rfl⟩ := step.unique step'
      obtain ⟨rfl, rfl⟩ := ih rest'
      exact ⟨rfl, rfl⟩

theorem Walk.nowhere (walk : s.Walk passed last) : ∀ wrapper next, ¬ last.LeadsTo wrapper next := by
  induction walk with
  | stop nowhere => exact nowhere
  | go _ _ ih => exact ih

/-- A step wraps the type of what it leads to, which is met one name further down. -/
theorem LeadsTo.result_resolve {wrapper : Wrapper} {next : Schema} (step : s.LeadsTo wrapper next) (path : String) :
    (s.resolve path).result =
      (next.resolve (qualified path s.id)).result.map fun r => { r with type := wrapper.around r.type } := by
  rw [resolve_eq, Shape.result_resolve]
  rcases step.shape with ⟨_, rfl, shape⟩ | ⟨rfl, shape⟩ <;> rw [shape] <;> rfl

/-- A walk wraps the type of its last node once for every step. -/
theorem Walk.result_resolve (walk : s.Walk passed last) (path : String) :
    (s.resolve path).result =
      (last.resolve (nameAlong path (passed.map (·.1)))).result.map fun r =>
        { r with type := wrapped (passed.map (·.2)) r.type } := by
  induction walk generalizing path with
  | @stop s =>
    have start : nameAlong path [] = path := String.append_empty
    rw [List.map_nil, List.map_nil, start]
    cases (s.resolve path).result <;> rfl
  | @go s next last wrapper passed step _ ih =>
    rw [step.result_resolve, ih]
    simp only [List.map_cons, nameAlong_cons]
    cases (last.resolve _).result <;> rfl

/-- A core is what its node resolves to. -/
theorem Core.result_resolve {path : String} {core : TypeExpr} {hoisted : Option Schema}
    (stands : last.Core (qualified path last.id) core hoisted) : (last.resolve path).result = .ok ⟨core, hoisted⟩ := by
  rw [resolve_eq, Shape.result_resolve, shape_eq]
  cases stands with
  | reference isReference => rw [if_pos isReference]
  | struct noReference object noElement found => simp [noReference, object, noElement, found]
  | primitive noReference notObject notArray listed =>
    simp [noReference, notObject, notArray, Primitive.require, Primitive.ofKind?_eq_some.2 listed, Except.map]

/-- A fault is what its node fails with. -/
theorem Fault.result_resolve {path : String} {defect : Defect} (fault : last.Fault (qualified path last.id) defect) :
    (last.resolve path).result = .error defect := by
  rw [resolve_eq, Shape.result_resolve, shape_eq]
  cases fault with
  | shapeless noReference object noElement noProperties => simp [noReference, object, noElement, noProperties]
  | bareArray noReference array noItems => simp [noReference, array, noItems]
  | unlisted noReference notObject notArray unlisted =>
    have unknown : Primitive.ofKind? last.kind last.format = none := by
      refine Option.eq_none_iff_forall_ne_some.2 fun type found => ?_
      exact unlisted type (Primitive.ofKind?_eq_some.1 found)
    simp [noReference, notObject, notArray, Primitive.require, unknown, Except.map]

/-- A node that leads nowhere has a core or a fault. -/
theorem core_or_fault (nowhere : ∀ wrapper next, ¬ last.LeadsTo wrapper next) (name : String) :
    (∃ core hoisted, last.Core name core hoisted) ∨ ∃ defect, last.Fault name defect := by
  by_cases noReference : last.reference = ""
  · by_cases object : last.kind = "object"
    · cases element : last.additionalProperties with
      | some next => exact absurd (.element noReference object element) (nowhere .map next)
      | none =>
        cases properties : last.properties with
        | some _ => exact .inl ⟨_, _, .struct noReference object element properties⟩
        | none => exact .inr ⟨_, .shapeless noReference object element properties⟩
    · by_cases array : last.kind = "array"
      · cases items : last.items with
        | some next => exact absurd (.items noReference array items) (nowhere .sequence next)
        | none => exact .inr ⟨_, .bareArray noReference array items⟩
      · by_cases listed : ∃ type, ((last.kind, last.format), type) ∈ Primitive.table
        · obtain ⟨type, listed⟩ := listed
          exact .inl ⟨_, _, .primitive noReference object array listed⟩
        · exact .inr ⟨_, .unlisted noReference object array (not_exists.1 listed)⟩
  · exact .inl ⟨_, _, .reference noReference⟩

/-- A node that leads nowhere resolves to its core, and fails with its fault. -/
theorem result_resolve_of_nowhere (nowhere : ∀ wrapper next, ¬ last.LeadsTo wrapper next) (path : String) :
    (∀ r, (last.resolve path).result = .ok r ↔ last.Core (qualified path last.id) r.type r.hoisted) ∧
      ∀ defect, (last.resolve path).result = .error defect ↔ last.Fault (qualified path last.id) defect := by
  rcases core_or_fault nowhere (qualified path last.id) with ⟨core, hoisted, stands⟩ | ⟨fault, found⟩
  · have resolved := stands.result_resolve
    refine ⟨fun r => ⟨?_, Core.result_resolve⟩, fun defect => ⟨?_, Fault.result_resolve⟩⟩
    · intro same
      cases resolved.symm.trans same
      exact stands
    · intro failed
      cases resolved.symm.trans failed
  · have failed := found.result_resolve
    refine ⟨fun r => ⟨?_, Core.result_resolve⟩, fun defect => ⟨?_, Fault.result_resolve⟩⟩
    · intro resolved
      cases failed.symm.trans resolved
    · intro same
      cases failed.symm.trans same
      exact found

/-- What is lifted out is a struct under its name, with the properties of the last node. -/
theorem Core.lifted {name : String} {core : TypeExpr} {t : Schema} (stands : last.Core name core (some t)) :
    core = .named name ∧ t.isStruct = true ∧ t.id = name ∧ t.properties = last.properties := by
  cases stands with
  | struct _ _ _ found => exact ⟨rfl, rfl, rfl, found.symm⟩

/-- Nothing is lifted out for a core that does not name it. -/
theorem Core.none_lifted {name : String} {core : TypeExpr} (stands : last.Core name core none) :
    core.named? = none := by
  cases stands <;> rfl

/-- When the last node of a walk has a core. -/
theorem exists_core_iff {name : String} :
    (∃ core hoisted, last.Core name core hoisted) ↔
      last.reference ≠ "" ∨
        (last.kind = "object" ∧ last.properties ≠ none ∧ last.additionalProperties = none) ∨
        (last.kind ≠ "object" ∧ last.kind ≠ "array" ∧
          ∃ type, ((last.kind, last.format), type) ∈ Primitive.table) := by
  constructor
  · rintro ⟨core, hoisted, stands⟩
    cases stands with
    | reference isReference => exact .inl isReference
    | struct _ object noElement found => exact .inr (.inl ⟨object, by simp [found], noElement⟩)
    | primitive _ notObject notArray listed => exact .inr (.inr ⟨notObject, notArray, _, listed⟩)
  · by_cases noReference : last.reference = ""
    · rintro (isReference | ⟨object, given, noElement⟩ | ⟨notObject, notArray, type, listed⟩)
      · exact absurd noReference isReference
      · obtain ⟨properties, found⟩ := Option.ne_none_iff_exists'.1 given
        exact ⟨_, _, .struct noReference object noElement found⟩
      · exact ⟨_, _, .primitive noReference notObject notArray listed⟩
    · intro
      exact ⟨_, _, .reference noReference⟩

end Schema

open Schema

/-- **Resolutions follow the walk.** From every schema there is one walk. There is a type just when the last node of
the walk is a reference, an object with properties and no element, or of another kind that the table lists with its
format; the type is the core of that node with a wrapper for every step. Nothing is lifted out unless the core names
it, and then it is one struct under that name with the properties of the last node as they are. Otherwise the fault
is that of the last node. Names are the path followed by the exported ids of all nodes of the walk. -/
theorem resolve_follows_walk (path : String) (s : Schema) :
    ∃ passed last, s.Walk passed last ∧
      (∀ passed' last', s.Walk passed' last' → passed' = passed ∧ last' = last) ∧
      let name := path ++ String.join ((passed.map (·.1) ++ [last]).map fun node => exported node.id)
      ((∃ r, (s.resolve path).result = .ok r) ↔
        last.reference ≠ "" ∨
          (last.kind = "object" ∧ last.properties ≠ none ∧ last.additionalProperties = none) ∨
          (last.kind ≠ "object" ∧ last.kind ≠ "array" ∧
            ∃ type, ((last.kind, last.format), type) ∈ Primitive.table)) ∧
      (∀ r, (s.resolve path).result = .ok r ↔
        ∃ core, last.Core name core r.hoisted ∧ r.type = wrapped (passed.map (·.2)) core) ∧
      (∀ core, last.Core name core none → core.named? = none) ∧
      (∀ core t, last.Core name core (some t) →
        core = .named name ∧ t.isStruct = true ∧ t.id = name ∧ t.properties = last.properties) ∧
      ∀ defect, (s.resolve path).result = .error defect ↔ last.Fault name defect := by
  obtain ⟨passed, last, walk⟩ := s.exists_walk
  have along := walk.result_resolve path
  obtain ⟨resolves, fails⟩ := result_resolve_of_nowhere walk.nowhere (nameAlong path (passed.map (·.1)))
  rw [← nameAlong_snoc] at resolves fails
  have typed (r : Resolution) : (s.resolve path).result = .ok r ↔
      ∃ core, last.Core (nameAlong path (passed.map (·.1) ++ [last])) core r.hoisted ∧
        r.type = wrapped (passed.map (·.2)) core := by
    rw [along, map_eq_ok]
    constructor
    · rintro ⟨inner, done, rfl⟩
      exact ⟨inner.type, (resolves inner).1 done, rfl⟩
    · rintro ⟨core, stands, same⟩
      refine ⟨⟨core, r.hoisted⟩, (resolves _).2 stands, ?_⟩
      rw [← same]
  refine ⟨passed, last, walk, fun _ _ other => walk.unique other, ?_, typed, ?_, ?_, ?_⟩
  · rw [← exists_core_iff]
    constructor
    · rintro ⟨r, resolved⟩
      obtain ⟨core, stands, -⟩ := (typed r).1 resolved
      exact ⟨core, r.hoisted, stands⟩
    · rintro ⟨core, hoisted, stands⟩
      exact ⟨⟨_, hoisted⟩, (typed _).2 ⟨core, stands, rfl⟩⟩
  · exact fun _ => Core.none_lifted
  · exact fun _ _ => Core.lifted
  · intro defect
    rw [along, map_eq_error]
    exact fails defect

end SchemaTypes
