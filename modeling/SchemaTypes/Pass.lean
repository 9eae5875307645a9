import SchemaTypes.Agenda
import SchemaTypes.Schema.Size

/-!
# Passes over a document

A pass puts the roots of a document on an agenda and declares what is pending, smallest name first; what
a declaration lifts out is put on the agenda before the next one is taken. It ends because the pending
schemas have fewer nodes after every step. A pass that fails keeps the declarations made before.
-/

namespace SchemaTypes
set_option autoImplicit false

/-- The declarations of a run in the order they were made, its events, and how it ended. -/
structure Pass where
  declarations : List Declaration
  events : List Event
  ending : Except Defect Unit

namespace Agenda

/-- The nodes of all pending schemas. -/
def size (agenda : Agenda) : Nat :=
  Schema.totalSize agenda.pending

theorem totalSize_insertById (s : Schema) (schemas : List Schema) :
    Schema.totalSize (insertById s schemas) = s.size + Schema.totalSize schemas := by
  induction schemas with
  | nil => simp [insertById, Schema.totalSize]
  | cons t more ih =>
    simp only [insertById]
    split
    · simp only [Schema.totalSize] at ih ⊢
      omega
    · simp [Schema.totalSize]

/-- An accepted schema adds its nodes. -/
theorem size_enqueue {agenda next : Agenda} {s : Schema} (accepted : agenda.enqueue s = .ok next) :
    next.size = s.size + agenda.size := by
  unfold enqueue at accepted
  split at accepted
  · cases accepted
  · cases accepted
    exact totalSize_insertById s agenda.pending

/-- Accepted schemas add their nodes. -/
theorem size_enqueueAll_le (agenda : Agenda) (schemas : List Schema) :
    (agenda.enqueueAll schemas).1.size ≤ Schema.totalSize schemas + agenda.size := by
  induction schemas generalizing agenda with
  | nil => simp [enqueueAll]
  | cons s more ih =>
    simp only [enqueueAll]
    split
    · exact Nat.le_add_left ..
    · next next accepted =>
      have bound := ih next
      have grown := size_enqueue accepted
      simp only [Schema.totalSize] at bound ⊢
      omega

/-- Taking a schema takes its nodes. -/
theorem size_of_popMin {agenda rest : Agenda} {s : Schema} (popped : agenda.popMin = some (s, rest)) :
    agenda.size = s.size + rest.size := by
  unfold popMin at popped
  split at popped
  · cases popped
  · next at_ =>
    cases popped
    simp [size, at_, Schema.totalSize]

/-- A step over the pending schemas leaves fewer nodes pending. -/
theorem size_step_lt {agenda rest : Agenda} {s : Schema} {declaration : Declaration} {hoisted : List Schema}
    (popped : agenda.popMin = some (s, rest)) (declared : s.declare.result = .ok (declaration, hoisted)) :
    (rest.enqueueAll hoisted).1.size < agenda.size := by
  have taken := size_of_popMin popped
  have fewer := Schema.totalSize_declare_lt declared
  have bound := size_enqueueAll_le rest hoisted
  omega

/-- Declares what is pending, and what is lifted out of it, until nothing is left. -/
def drain (agenda : Agenda) : Pass :=
  match popped : agenda.popMin with
  | none => ⟨[], [], .ok ()⟩
  | some (s, rest) =>
    match declared : s.declare.result with
    | .error defect => ⟨[], s.declare.events, .error defect⟩
    | .ok (declaration, hoisted) =>
      have := size_step_lt popped declared
      let queued := rest.enqueueAll hoisted
      let events := s.declare.events ++ queued.2.events
      match queued.2.result with
      | .error defect => ⟨[declaration], events, .error defect⟩
      | .ok () =>
        let later := drain queued.1
        ⟨declaration :: later.declarations, events ++ later.events, later.ending⟩
termination_by agenda.size

/-- One round of the loop, and what it leaves to the next ones. -/
theorem drain_eq (agenda : Agenda) :
    agenda.drain =
      match agenda.popMin with
      | none => ⟨[], [], .ok ()⟩
      | some (s, rest) =>
        match s.declare.result with
        | .error defect => ⟨[], s.declare.events, .error defect⟩
        | .ok (declaration, hoisted) =>
          let queued := rest.enqueueAll hoisted
          let events := s.declare.events ++ queued.2.events
          match queued.2.result with
          | .error defect => ⟨[declaration], events, .error defect⟩
          | .ok () =>
            let later := queued.1.drain
            ⟨declaration :: later.declarations, events ++ later.events, later.ending⟩ := by
  rw [drain]
  split
  · next done => simp only [done]
  · next taken =>
    simp only [taken]
    split
    · next failed => simp only [failed]
    · next declared => simp only [declared]

end Agenda

/-- The pass over a document. -/
def Document.pass (doc : Document) : Pass :=
  let (agenda, seeding) := Agenda.empty.enqueueAll doc.roots
  match seeding.result with
  | .error defect => ⟨[], seeding.events, .error defect⟩
  | .ok () =>
    let run := agenda.drain
    { run with events := seeding.events ++ .seeded doc.name agenda.length :: run.events }

end SchemaTypes
