import SchemaTypes.Agenda

/-!
# What agendas accept

An agenda accepts schemas whose names are fresh: different from each other and from every name it has
seen. It then has them pending next to what was pending, and has seen their names as well. Taking a
schema takes the first of the pending ones, which has the smallest name.
-/

namespace SchemaTypes
set_option autoImplicit false

open scoped List

theorem perm_insertById (s : Schema) (schemas : List Schema) : (insertById s schemas).Perm (s :: schemas) := by
  induction schemas with
  | nil => exact .refl _
  | cons t more ih =>
    simp only [insertById]
    split
    · exact (ih.cons t).trans (.swap s t more)
    · exact .refl _

namespace Agenda

/-- Names that differ from each other and from all names in `seen`. -/
def Fresh (seen names : List String) : Prop :=
  names.Nodup ∧ ∀ name ∈ names, name ∉ seen

theorem fresh_nil (seen : List String) : Fresh seen [] :=
  ⟨.nil, by simp⟩

/-- Names are new to an empty agenda if they differ from each other. -/
theorem fresh_empty {names : List String} : Fresh empty.seen names ↔ names.Nodup := by
  simp [Fresh, empty]

theorem Fresh.perm {seen names names' : List String} (same : names.Perm names') :
    Fresh seen names ↔ Fresh seen names' := by
  simp only [Fresh, same.nodup_iff, same.mem_iff]

theorem Fresh.left {seen names names' : List String} (fresh : Fresh seen (names ++ names')) :
    Fresh seen names :=
  ⟨(List.nodup_append.1 fresh.1).1, fun name mem => fresh.2 name (List.mem_append_left _ mem)⟩

/-- Names are fresh together if the first ones are, and the others are once the first ones are seen. -/
theorem fresh_append {seen later names names' : List String}
    (grown : ∀ name, name ∈ later ↔ name ∈ names ∨ name ∈ seen) :
    Fresh seen (names ++ names') ↔ Fresh seen names ∧ Fresh later names' := by
  simp only [Fresh, List.nodup_append, List.mem_append, grown, not_or]
  constructor
  · rintro ⟨⟨first, second, apart⟩, unseen⟩
    refine ⟨⟨first, fun name mem => unseen name (.inl mem)⟩, second, ?_⟩
    intro name mem
    exact ⟨fun mem' => apart name mem' name mem rfl, unseen name (.inr mem)⟩
  · rintro ⟨⟨first, unseen⟩, second, unseen'⟩
    refine ⟨⟨first, second, ?_⟩, ?_⟩
    · rintro name mem _ mem' rfl
      exact (unseen' name mem').1 mem
    · rintro name (mem | mem)
      · exact unseen name mem
      · exact (unseen' name mem).2

/-- How an agenda changes when it accepts schemas. -/
structure Accepts (agenda : Agenda) (schemas : List Schema) (next : Agenda) : Prop where
  pending : next.pending.Perm (schemas ++ agenda.pending)
  seen : ∀ name, name ∈ next.seen ↔ name ∈ schemas.map (·.id) ∨ name ∈ agenda.seen

theorem enqueue_eq_error {agenda : Agenda} {s : Schema} {defect : Defect} :
    agenda.enqueue s = .error defect ↔ s.id ∈ agenda.seen ∧ defect = .duplicate s.id := by
  unfold enqueue
  split <;> simp_all [eq_comm]

/-- A schema that is accepted has a new name. -/
theorem enqueue_eq_ok {agenda next : Agenda} {s : Schema} (accepted : agenda.enqueue s = .ok next) :
    s.id ∉ agenda.seen ∧ next.pending = insertById s agenda.pending ∧ next.seen = s.id :: agenda.seen := by
  unfold enqueue at accepted
  split at accepted
  · cases accepted
  · next new =>
    cases accepted
    exact ⟨new, rfl, rfl⟩

/-- Schemas are accepted just when their names are fresh. -/
theorem result_enqueueAll {agenda : Agenda} {schemas : List Schema} :
    (agenda.enqueueAll schemas).2.result = .ok () ↔ Fresh agenda.seen (schemas.map (·.id)) := by
  induction schemas generalizing agenda with
  | nil => exact ⟨fun _ => fresh_nil _, fun _ => rfl⟩
  | cons s more ih =>
    simp only [enqueueAll]
    split
    · next defect refused =>
      obtain ⟨known, rfl⟩ := enqueue_eq_error.1 refused
      constructor
      · intro impossible
        cases impossible
      · intro fresh
        exact absurd known (fresh.2 s.id (by simp))
    · next next accepted =>
      obtain ⟨new, -, seen⟩ := enqueue_eq_ok accepted
      have single : Fresh agenda.seen [s.id] := ⟨by simp, by simpa using new⟩
      have both : Fresh agenda.seen ([s.id] ++ more.map (·.id)) ↔
          Fresh agenda.seen [s.id] ∧ Fresh next.seen (more.map (·.id)) := fresh_append (by simp [seen])
      rw [List.map_cons, ← List.singleton_append, both, ← ih, Traced.result_bind_eq_ok]
      exact ⟨fun ⟨_, _, rest⟩ => ⟨single, rest⟩, fun ⟨_, rest⟩ => ⟨(), rfl, rest⟩⟩

theorem accepts_enqueueAll {agenda : Agenda} {schemas : List Schema}
    (accepted : (agenda.enqueueAll schemas).2.result = .ok ()) :
    agenda.Accepts schemas (agenda.enqueueAll schemas).1 := by
  induction schemas generalizing agenda with
  | nil => exact ⟨.refl _, by simp [enqueueAll]⟩
  | cons s more ih =>
    simp only [enqueueAll] at accepted ⊢
    split at accepted
    · cases accepted
    · next next first =>
      obtain ⟨_, _, rest⟩ := Traced.result_bind_eq_ok.1 accepted
      obtain ⟨-, pending, seen⟩ := enqueue_eq_ok first
      have after := ih rest
      constructor
      · calc (next.enqueueAll more).1.pending
          _ ~ more ++ next.pending := after.pending
          _ ~ more ++ s :: agenda.pending := (pending ▸ perm_insertById s agenda.pending).append_left more
          _ ~ s :: more ++ agenda.pending := List.perm_middle
      · intro name
        rw [after.seen, seen, List.map_cons, List.mem_cons, List.mem_cons, or_assoc, or_left_comm]

/-- An accepted schema is pending next to what was pending. -/
theorem accepts_enqueue {agenda next : Agenda} {s : Schema} (accepted : agenda.enqueue s = .ok next) :
    agenda.Accepts [s] next := by
  obtain ⟨-, pending, seen⟩ := enqueue_eq_ok accepted
  refine ⟨pending ▸ perm_insertById s agenda.pending, ?_⟩
  simp [seen]

/-- Schemas that are not all accepted are accepted up to the first one whose name is known by then. -/
theorem exists_refused {agenda : Agenda} {schemas : List Schema} {defect : Defect}
    (refused : (agenda.enqueueAll schemas).2.result = .error defect) :
    ∃ before s after, schemas = before ++ s :: after ∧ (agenda.enqueueAll before).2.result = .ok () ∧
      (agenda.enqueueAll schemas).1 = (agenda.enqueueAll before).1 ∧
      s.id ∈ (agenda.enqueueAll before).1.seen ∧ defect = .duplicate s.id := by
  induction schemas generalizing agenda with
  | nil => cases refused
  | cons s more ih =>
    simp only [enqueueAll] at refused ⊢
    split at refused
    · next here =>
      cases refused
      obtain ⟨known, rfl⟩ := enqueue_eq_error.1 here
      exact ⟨[], s, more, rfl, rfl, rfl, known, rfl⟩
    · next next first =>
      obtain ⟨before, t, after, rfl, accepted, same, known, rfl⟩ := ih refused
      have opened : agenda.enqueueAll (s :: before) =
          ((next.enqueueAll before).1, do Traced.report (.scheduled s.id); (next.enqueueAll before).2) := by
        simp only [enqueueAll, first]
      refine ⟨s :: before, t, after, rfl, ?_⟩
      rw [opened]
      exact ⟨Traced.result_bind_eq_ok.2 ⟨(), rfl, accepted⟩, same, known, rfl⟩

theorem popMin_eq_none {agenda : Agenda} : agenda.popMin = none ↔ agenda.pending = [] := by
  unfold popMin
  split <;> simp_all

/-- What is taken is the first of the pending schemas. -/
theorem popMin_eq_some {agenda rest : Agenda} {s : Schema} (popped : agenda.popMin = some (s, rest)) :
    agenda.pending = s :: rest.pending ∧ rest.seen = agenda.seen := by
  unfold popMin at popped
  split at popped
  · cases popped
  · next at_ =>
    cases popped
    exact ⟨at_, rfl⟩

/-- What is taken has a smaller name than everything that stays. -/
theorem lt_of_popMin {agenda rest : Agenda} {s t : Schema} (popped : agenda.popMin = some (s, rest))
    (mem : t ∈ rest.pending) : s.id < t.id := by
  have ascending := agenda.ascending
  rw [(popMin_eq_some popped).1] at ascending
  exact (List.pairwise_cons.1 ascending).1 t mem

end Agenda

end SchemaTypes
