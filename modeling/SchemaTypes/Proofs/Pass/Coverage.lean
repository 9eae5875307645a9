import SchemaTypes.Proofs.Flattening
import SchemaTypes.Proofs.Pass.Ascending
import SchemaTypes.Proofs.Pass.Flattening

/-!
# What a run has covered

While a pass runs, every site of its document is either declared or still to come: it is due once the schemas
in hand and the pending ones are declared (`Covers`). All that is to come has a name that is not smaller than
that of the schema taken last, so what was declared before it are just the sites with a smaller name.
-/

namespace SchemaTypes
set_option autoImplicit false

open scoped List

/-- Whether a pass has not stopped yet. -/
def Phase.Runs : Phase → Prop
  | .stopped _ => False
  | _ => True

theorem Step.runs {p q : Point} (action : Step p q) : p.phase.Runs := by
  cases action <;> trivial

/-- The schema that was taken off the agenda and waits to be declared. -/
def Phase.taken : Phase → List Schema
  | .declare s => [s]
  | _ => []

/-- At one point of a run, the sites `done` are declared in full, and all other sites are due by what is in hand
or pending, as are all roots that are no structs. The names seen are those of the sites declared and of what was
accepted after them. -/
structure Covers (doc : Document) (done : List Site) (p : Point) : Prop where
  declarations : p.declarations = done.map Site.declaration
  resolve : ∀ site ∈ done, site.Resolves
  sites : doc.dueSites ~ done ++ (p.phase.inHand ++ p.agenda.pending).flatMap Schema.dueSites
  structs : ∀ root ∈ doc.roots, root.isStruct = false → root ∈ p.phase.inHand ++ p.agenda.pending
  seen : ∀ name ∈ p.agenda.seen,
    name ∈ done.map (·.id) ∨ name ∈ (p.phase.taken ++ p.agenda.pending).map (·.id)

namespace Covers

section steps

variable {doc : Document} {done : List Site} {agenda next rest : Agenda} {s : Schema}
  {waiting hoisted : List Schema} {popped : List String} {declarations : List Declaration}
  {declaration : Declaration}

theorem start (doc : Document) : Covers doc [] doc.start where
  declarations := rfl
  resolve := by
    intro site mem
    cases mem
  sites := by
    show doc.roots.flatMap Schema.dueSites ~ [] ++ (doc.roots ++ []).flatMap Schema.dueSites
    rw [List.append_nil, List.nil_append]
  structs := fun _ mem _ => List.mem_append_left _ mem
  seen := by
    intro name mem
    cases mem

/-- A schema that is accepted goes from what is in hand to what is pending. -/
theorem accept (covers : Covers doc done ⟨agenda, .queue (s :: waiting), popped, declarations⟩)
    (accepted : agenda.enqueue s = .ok next) :
    Covers doc done ⟨next, .queue waiting, popped, declarations⟩ := by
  obtain ⟨-, pending, seen⟩ := Agenda.enqueue_eq_ok accepted
  have inserted : next.pending ~ s :: agenda.pending := pending ▸ perm_insertById s agenda.pending
  have moved : s :: waiting ++ agenda.pending ~ waiting ++ next.pending :=
    List.perm_middle.symm.trans (inserted.symm.append_left waiting)
  refine { covers with sites := ?sites, structs := ?structs, seen := ?seen }
  case sites => exact covers.sites.trans ((moved.flatMap_right _).append_left done)
  case structs => exact fun root mem other => moved.mem_iff.1 (covers.structs root mem other)
  case seen =>
    intro name mem
    show _ ∨ name ∈ next.pending.map (·.id)
    rw [(inserted.map _).mem_iff, List.map_cons, List.mem_cons]
    rcases List.mem_cons.1 (seen ▸ mem) with same | known
    · exact .inr (.inl same)
    · exact (covers.seen name known).imp_right .inr

/-- A schema that is taken goes from what is pending to what is in hand. -/
theorem take (covers : Covers doc done ⟨agenda, .queue [], popped, declarations⟩)
    (taken : agenda.popMin = some (s, rest)) :
    Covers doc done ⟨rest, .declare s, popped ++ [s.id], declarations⟩ := by
  obtain ⟨split, seen⟩ := Agenda.popMin_eq_some taken
  refine { covers with sites := ?sites, structs := ?structs, seen := ?seen }
  case sites =>
    show doc.dueSites ~ done ++ (s :: rest.pending).flatMap Schema.dueSites
    rw [← split]
    exact covers.sites
  case structs =>
    intro root mem other
    show root ∈ s :: rest.pending
    rw [← split]
    exact covers.structs root mem other
  case seen =>
    intro name mem
    show _ ∨ name ∈ (s :: rest.pending).map (·.id)
    rw [← split]
    exact covers.seen name (seen ▸ mem)

/-- A schema that is declared leaves in hand what it lifts out, which is what it leads to. -/
theorem declare (covers : Covers doc done ⟨agenda, .declare s, popped, declarations⟩)
    (declared : s.declare.result = .ok (declaration, hoisted)) :
    Covers doc (done ++ [s.site]) ⟨agenda, .queue hoisted, popped, declarations ++ [declaration]⟩ := by
  obtain ⟨isStruct, resolves, rfl, rfl⟩ := Schema.result_declare.1 declared
  constructor
  case declarations =>
    rw [List.map_append, ← covers.declarations]
    rfl
  case resolve =>
    intro site mem
    rcases List.mem_append.1 mem with mem | mem
    · exact covers.resolve site mem
    · exact List.mem_singleton.1 mem ▸ resolves
  case sites =>
    refine covers.sites.trans (.of_eq ?_)
    show done ++ ([s] ++ agenda.pending).flatMap Schema.dueSites =
      done ++ [s.site] ++ (s.site.lifted ++ agenda.pending).flatMap Schema.dueSites
    rw [List.flatMap_append, List.flatMap_singleton, Schema.dueSites_of_isStruct isStruct,
      List.flatMap_append, List.append_assoc, List.singleton_append, List.cons_append]
  case structs =>
    intro root mem other
    rcases List.mem_cons.1 (covers.structs root mem other) with rfl | pending
    · exact absurd isStruct (Bool.eq_false_iff.1 other)
    · exact List.mem_append_right _ pending
  case seen =>
    intro name mem
    rw [List.map_append]
    rcases covers.seen name mem with known | known
    · exact .inl (List.mem_append_left _ known)
    · rcases List.mem_cons.1 known with same | pending
      · exact .inl (List.mem_append_right _ (List.mem_singleton.2 same))
      · exact .inr pending

end steps

variable {doc : Document} {done : List Site} {p q : Point}

/-- **Every action keeps the coverage**, until the run stops. -/
theorem step (action : Step p q) (running : q.phase.Runs) (covers : Covers doc done p) :
    ∃ done', Covers doc done' q := by
  cases action with
  | accept accepted => exact ⟨done, covers.accept accepted⟩
  | take taken => exact ⟨done, covers.take taken⟩
  | declare declared => exact ⟨_, covers.declare declared⟩
  | refuse | finish | fail => exact running.elim

/-- What is declared are whole declarations of sites. -/
theorem whole (covers : Covers doc done p) {declaration : Declaration} (mem : declaration ∈ p.declarations) :
    ∃ site ∈ doc.dueSites, site.Resolves ∧ declaration = site.declaration := by
  rw [covers.declarations] at mem
  obtain ⟨site, made, same⟩ := List.mem_map.1 mem
  exact ⟨site, covers.sites.mem_iff.2 (List.mem_append_left _ made), covers.resolve site made, same.symm⟩

end Covers

/-- All points of a run cover the sites of the document, until it stops. -/
theorem Reaches.covers {doc : Document} {p : Point} (run : Reaches doc.start p) (running : p.phase.Runs) :
    ∃ done, Covers doc done p := by
  have kept (p q : Point) (action : Step p q) (covered : p.phase.Runs → ∃ done, Covers doc done p)
      (running : q.phase.Runs) : ∃ done, Covers doc done q := by
    obtain ⟨done, covers⟩ := covered action.runs
    exact covers.step action running
  exact run.invariant kept (fun _ => ⟨[], Covers.start doc⟩) running

/-- What a site leads to is not named before it. -/
theorem Site.le_of_mem_flatten {site below : Site} (mem : below ∈ site.flatten) : site.id ≤ below.id := by
  induction site using Site.lifted_induction with
  | step site ih =>
    rw [Site.flatten_eq] at mem
    rcases List.mem_cons.1 mem with rfl | mem
    · exact Std.le_refl _
    · obtain ⟨s, lifted, mem⟩ := List.mem_flatMap.1 mem
      obtain ⟨steps, named⟩ := (Site.liftedUnder_of_mem_lifted lifted).below
      have above : site.id ≤ s.id := named ▸ le_append site.id steps
      exact Std.le_trans above (ih s lifted mem)

theorem Schema.le_of_mem_dueSites {s : Schema} {site : Site} (mem : site ∈ s.dueSites) : s.id ≤ site.id := by
  unfold dueSites at mem
  split at mem
  · exact Site.le_of_mem_flatten mem
  · rw [List.mem_singleton.1 mem]
    exact Std.le_refl _

/-- The schema that was taken last is named behind all that is declared, and before all that is pending. -/
theorem Ordered.around_taken {agenda : Agenda} {s : Schema} {popped : List String}
    {declarations : List Declaration} (ordered : Ordered ⟨agenda, .declare s, popped, declarations⟩) :
    (∀ declaration ∈ declarations, declaration.id < s.id) ∧ ∀ t ∈ agenda.pending, s.id < t.id := by
  have taken : declarations.map (·.id) ++ [s.id] = popped := ordered.declared
  constructor
  · intro declaration mem
    have ascending := ordered.popped
    rw [← taken] at ascending
    have declared : declaration.id ∈ declarations.map (·.id) := List.mem_map_of_mem mem
    exact (List.pairwise_append.1 ascending).2.2 _ declared _ (List.mem_singleton_self _)
  · intro t mem
    apply ordered.pending t mem
    rw [← taken]
    exact List.mem_append_right _ (List.mem_singleton_self _)

/-- What is pending when a schema is declared is not named before it, and neither is the schema itself. -/
theorem Ordered.le_taken {agenda : Agenda} {s t : Schema} {popped : List String}
    {declarations : List Declaration} (ordered : Ordered ⟨agenda, .declare s, popped, declarations⟩)
    (mem : t ∈ s :: agenda.pending) : s.id ≤ t.id := by
  rcases List.mem_cons.1 mem with rfl | mem
  · exact Std.le_refl _
  · exact Std.le_of_lt (ordered.around_taken.2 t mem)

/-- The sites with a smaller name than the schema that was taken are those declared. -/
theorem Covers.filter_perm {doc : Document} {done : List Site} {agenda : Agenda} {s : Schema}
    {popped : List String} {declarations : List Declaration}
    (covers : Covers doc done ⟨agenda, .declare s, popped, declarations⟩)
    (ordered : Ordered ⟨agenda, .declare s, popped, declarations⟩) :
    (doc.dueSites.filter fun site => site.id < s.id) ~ done := by
  have made : declarations = done.map Site.declaration := covers.declarations
  have declared := ordered.around_taken.1
  have before : (done.filter fun site => site.id < s.id) = done := by
    apply List.filter_eq_self.2
    intro site mem
    have below := declared site.declaration (made ▸ List.mem_map_of_mem mem)
    exact decide_eq_true below
  have after : (((s :: agenda.pending).flatMap Schema.dueSites).filter fun site => site.id < s.id) = [] := by
    apply List.filter_eq_nil_iff.2
    intro site mem
    obtain ⟨t, mem, due⟩ := List.mem_flatMap.1 mem
    have above := Std.le_trans (ordered.le_taken mem) (Schema.le_of_mem_dueSites due)
    exact fun below => Std.not_le.2 (of_decide_eq_true below) above
  calc doc.dueSites.filter fun site => site.id < s.id
    _ ~ (done ++ (s :: agenda.pending).flatMap Schema.dueSites).filter fun site => site.id < s.id :=
      covers.sites.filter _
    _ = done := by rw [List.filter_append, before, after, List.append_nil]

/-- The declarations of the sites whose names are smaller than `name`, in ascending order. -/
def Document.declarationsBelow (doc : Document) (name : String) : List Declaration :=
  sortedById ((doc.dueSites.filter fun site => site.id < name).map Site.declaration)

/-- **When a schema is declared, all sites with a smaller name have been**, and no others. -/
theorem Reaches.declarations_eq {doc : Document} {agenda : Agenda} {s : Schema} {popped : List String}
    {declarations : List Declaration} (run : Reaches doc.start ⟨agenda, .declare s, popped, declarations⟩) :
    declarations = doc.declarationsBelow s.id := by
  obtain ⟨done, covers⟩ := run.covers trivial
  have ordered := Ordered.of_reaches run
  have made : declarations = done.map Site.declaration := covers.declarations
  apply eq_sortedById
  · rw [made]
    exact (covers.filter_perm ordered).symm.map _
  · exact ordered.popped.sublist ordered.declared_prefix.sublist

/-- When a schema is declared, all roots with a smaller name are structs. -/
theorem Reaches.isStruct_of_lt {doc : Document} {agenda : Agenda} {s root : Schema} {popped : List String}
    {declarations : List Declaration} (run : Reaches doc.start ⟨agenda, .declare s, popped, declarations⟩)
    (mem : root ∈ doc.roots) (before : root.id < s.id) : root.isStruct = true := by
  obtain ⟨_, covers⟩ := run.covers trivial
  by_contra other
  have waits := covers.structs root mem (eq_false_of_ne_true other)
  exact Std.not_le.2 before ((Ordered.of_reaches run).le_taken waits)

end SchemaTypes
