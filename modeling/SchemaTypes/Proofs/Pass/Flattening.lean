import Mathlib.Data.List.Perm.Basic
import SchemaTypes.Proofs.Agenda
import SchemaTypes.Proofs.Entries
import SchemaTypes.Proofs.Flattening
import SchemaTypes.Proofs.Pass.Ascending

/-!
# Passes flatten

A pass declares just the sites that the flattening of its document has, though it takes them from an agenda
that grows while it is drained. What the pending schemas lead to is declarable if all of it resolves and the
names that are still to come are fresh (`Agenda.Declarable`); one round of the loop hands this on from the
agenda before it to the agenda after it, and the declarations of the rounds are the flattened ones in
another order, which is the order of their names.
-/

namespace SchemaTypes
set_option autoImplicit false

open scoped List

namespace Agenda

/-- The sites that the pending schemas lead to, their own apart. -/
def sitesBelow (agenda : Agenda) : List Site :=
  agenda.pending.flatMap fun s => s.site.below

/-- What has to hold for all pending schemas, and all that they lead to, to be declared. -/
structure Declarable (agenda : Agenda) : Prop where
  structs : ∀ s ∈ agenda.pending, s.isStruct = true
  resolve : ∀ s ∈ agenda.pending, ∀ site ∈ s.site.flatten, site.Resolves
  fresh : Fresh agenda.seen (agenda.sitesBelow.map (·.id))

end Agenda

/-- The sites of schemas are their own and the ones below them. -/
theorem flatMap_flatten_perm (schemas : List Schema) :
    schemas.flatMap (fun s => s.site.flatten) ~
      schemas.map Schema.site ++ schemas.flatMap fun s => s.site.below := by
  simp only [Site.flatten_eq]
  exact (List.map_append_flatMap_perm schemas _ _).symm

theorem map_id_site (schemas : List Schema) : (schemas.map Schema.site).map (·.id) = schemas.map (·.id) := by
  rw [List.map_map]
  rfl

namespace Agenda

variable {agenda rest next : Agenda} {s : Schema}

/-- One round of the loop: what was to come is what the schema that is taken lifts out, and what is still to
come after that. -/
theorem sitesBelow_perm (taken : agenda.popMin = some (s, rest)) :
    agenda.sitesBelow ~
      s.site.lifted.map Schema.site ++ (s.site.lifted ++ rest.pending).flatMap fun t => t.site.below := by
  unfold sitesBelow
  rw [(popMin_eq_some taken).1, List.flatMap_cons]
  calc s.site.below ++ rest.pending.flatMap (fun t => t.site.below)
    _ ~ (s.site.lifted.map Schema.site ++ s.site.lifted.flatMap fun t => t.site.below) ++
        rest.pending.flatMap fun t => t.site.below := (flatMap_flatten_perm _).append_right _
    _ = s.site.lifted.map Schema.site ++ (s.site.lifted ++ rest.pending).flatMap fun t => t.site.below := by
      rw [List.append_assoc, List.flatMap_append]

/-- Fresh names to come are fresh names to lift out now. -/
theorem fresh_lifted (taken : agenda.popMin = some (s, rest))
    (fresh : Fresh agenda.seen (agenda.sitesBelow.map (·.id))) : Fresh rest.seen (s.site.lifted.map (·.id)) := by
  have names := (sitesBelow_perm taken).map (·.id)
  rw [List.map_append, map_id_site] at names
  rw [(popMin_eq_some taken).2]
  exact ((Fresh.perm names).1 fresh).left

/-- The names to come are fresh if those lifted out now are, and the others are once these are seen. -/
theorem fresh_sitesBelow (taken : agenda.popMin = some (s, rest)) (accepts : rest.Accepts s.site.lifted next) :
    Fresh agenda.seen (agenda.sitesBelow.map (·.id)) ↔
      Fresh rest.seen (s.site.lifted.map (·.id)) ∧ Fresh next.seen (next.sitesBelow.map (·.id)) := by
  have after := (accepts.pending.flatMap_right fun t => t.site.below).symm
  have names := ((sitesBelow_perm taken).trans (after.append_left _)).map (·.id)
  rw [List.map_append, map_id_site] at names
  rw [Fresh.perm names, ← (popMin_eq_some taken).2]
  exact fresh_append accepts.seen

/-- **One round hands declarability on.** -/
theorem declarable_round (taken : agenda.popMin = some (s, rest)) (isStruct : s.isStruct = true)
    (resolves : s.site.Resolves) (fresh : Fresh rest.seen (s.site.lifted.map (·.id)))
    (accepts : rest.Accepts s.site.lifted next) : agenda.Declarable ↔ next.Declarable := by
  have pending := (popMin_eq_some taken).1
  have mem_next {t : Schema} : t ∈ next.pending ↔ t ∈ s.site.lifted ∨ t ∈ rest.pending := by
    rw [accepts.pending.mem_iff, List.mem_append]
  have names := fresh_sitesBelow taken accepts
  constructor
  · rintro ⟨structs, resolve, fresh⟩
    refine ⟨?_, ?_, (names.1 fresh).2⟩
    · intro t mem
      rcases mem_next.1 mem with lifted | mem
      · exact (Site.liftedUnder_of_mem_lifted lifted).isStruct
      · exact structs t (pending ▸ List.mem_cons_of_mem s mem)
    · intro t mem site below
      rcases mem_next.1 mem with lifted | mem
      · refine resolve s (pending ▸ List.mem_cons_self) site ?_
        rw [Site.flatten_eq]
        exact List.mem_cons_of_mem _ (List.mem_flatMap.2 ⟨t, lifted, below⟩)
      · exact resolve t (pending ▸ List.mem_cons_of_mem s mem) site below
  · rintro ⟨structs, resolve, fresh'⟩
    refine ⟨?_, ?_, names.2 ⟨fresh, fresh'⟩⟩
    · rw [pending]
      intro t mem
      rcases List.mem_cons.1 mem with rfl | mem
      · exact isStruct
      · exact structs t (mem_next.2 (.inr mem))
    · rw [pending]
      intro t mem site below
      rcases List.mem_cons.1 mem with rfl | mem
      · rw [Site.flatten_eq] at below
        rcases List.mem_cons.1 below with rfl | below
        · exact resolves
        · obtain ⟨u, lifted, below⟩ := List.mem_flatMap.1 below
          exact resolve u (mem_next.2 (.inl lifted)) site below
      · exact resolve t (mem_next.2 (.inr mem)) site below

/-- The schema that is taken from a declarable agenda is declared. -/
theorem Declarable.declare (taken : agenda.popMin = some (s, rest)) (declarable : agenda.Declarable) :
    s.declare.result = .ok (s.site.declaration, s.site.lifted) := by
  have mem : s ∈ agenda.pending := (popMin_eq_some taken).1 ▸ List.mem_cons_self
  refine Schema.result_declare.2 ⟨declarable.structs s mem, ?_, rfl, rfl⟩
  refine declarable.resolve s mem s.site ?_
  rw [Site.flatten_eq]
  exact List.mem_cons_self

/-- **An agenda is drained to its end just when everything on it is declarable.** -/
theorem ending_drain (agenda : Agenda) : agenda.drain.ending = .ok () ↔ agenda.Declarable := by
  fun_induction drain agenda with
  | case1 agenda done =>
    have nothing := popMin_eq_none.1 done
    refine ⟨fun _ => ⟨by simp [nothing], by simp [nothing], ?_⟩, fun _ => rfl⟩
    simp [sitesBelow, nothing, fresh_nil]
  | case2 agenda s rest taken defect failed =>
    constructor
    · intro impossible
      cases impossible
    · intro declarable
      rw [declarable.declare taken] at failed
      cases failed
  | case3 agenda s rest taken declaration hoisted declared _ queued events defect refused =>
    constructor
    · intro impossible
      cases impossible
    · intro declarable
      obtain ⟨-, -, rfl, rfl⟩ := Schema.result_declare.1 declared
      have accepted := result_enqueueAll.2 (fresh_lifted taken declarable.fresh)
      rw [show queued.2.result = .ok () from accepted] at refused
      cases refused
  | case4 agenda s rest taken declaration hoisted declared _ queued events accepted later ih =>
    obtain ⟨isStruct, resolves, rfl, rfl⟩ := Schema.result_declare.1 declared
    have fresh := result_enqueueAll.1 accepted
    exact ih.trans (declarable_round taken isStruct resolves fresh (accepts_enqueueAll accepted)).symm

end Agenda

theorem Document.sites_perm (doc : Document) :
    doc.sites ~ doc.roots.map Schema.site ++ doc.roots.flatMap fun s => s.site.below :=
  flatMap_flatten_perm doc.roots

/-- A pass comes to its end just when the flattening asks for nothing that is refused. -/
theorem Document.ending_pass (doc : Document) :
    doc.pass.ending = .ok () ↔
      (∀ root ∈ doc.roots, root.isStruct = true) ∧ (∀ site ∈ doc.sites, site.Resolves) ∧
        (doc.sites.map (·.id)).Nodup := by
  have names : doc.sites.map (·.id) ~
      doc.roots.map (·.id) ++ (doc.roots.flatMap fun s => s.site.below).map (·.id) := by
    rw [← map_id_site, ← List.map_append]
    exact doc.sites_perm.map _
  cases seeding : (Agenda.empty.enqueueAll doc.roots).2.result with
  | error defect =>
    rw [(pass_of_refused seeding).1]
    refine ⟨nofun, fun ⟨_, _, distinct⟩ => ?_⟩
    have fresh := (Agenda.fresh_empty.2 (names.nodup_iff.1 distinct)).left
    rw [Agenda.result_enqueueAll.2 fresh] at seeding
    cases seeding
  | ok =>
    have accepts := Agenda.accepts_enqueueAll seeding
    have rootNames := Agenda.result_enqueueAll.1 seeding
    have pending := seeded_perm seeding
    have after := (pending.flatMap_right fun s => s.site.below).map (·.id)
    have fresh : (doc.sites.map (·.id)).Nodup ↔
        Agenda.Fresh doc.seeded.seen (doc.seeded.sitesBelow.map (·.id)) := by
      rw [names.nodup_iff, ← Agenda.fresh_empty, Agenda.fresh_append accepts.seen]
      exact ⟨fun both => (Agenda.Fresh.perm after).2 both.2,
        fun rest => ⟨rootNames, (Agenda.Fresh.perm after).1 rest⟩⟩
    rw [(pass_of_accepted seeding).1, Agenda.ending_drain, fresh]
    constructor
    · rintro ⟨structs, resolve, distinct⟩
      refine ⟨fun root mem => structs root (pending.mem_iff.2 mem), ?_, distinct⟩
      intro site mem
      obtain ⟨root, mem, below⟩ := List.mem_flatMap.1 mem
      exact resolve root (pending.mem_iff.2 mem) site below
    · rintro ⟨structs, resolve, distinct⟩
      refine ⟨fun root mem => structs root (pending.mem_iff.1 mem), ?_, distinct⟩
      intro root mem site below
      exact resolve site (List.mem_flatMap.2 ⟨root, pending.mem_iff.1 mem, below⟩)

/-- Declarations in ascending order of their names. -/
def sortedById (declarations : List Declaration) : List Declaration :=
  declarations.mergeSort fun a b => a.id ≤ b.id

/-- Declarations whose names ascend are in the order of their names. -/
theorem eq_sortedById {declarations declarations' : List Declaration} (same : declarations ~ declarations')
    (ascending : (declarations.map (·.id)).Pairwise (· < ·)) : declarations = sortedById declarations' := by
  have sorted : declarations ~ sortedById declarations' := same.trans (List.mergeSort_perm _ _).symm
  have distinct : (declarations.map (·.id)).Nodup := ascending.imp Std.ne_of_lt
  refine eq_of_perm_of_sorted Declaration.id sorted distinct ?_ (pairwise_sorted Declaration.id _)
  exact (List.pairwise_map.1 ascending).imp Std.le_of_lt

end SchemaTypes
