import SchemaTypes.Defect
import SchemaTypes.Schema
import SchemaTypes.Traced

/-!
# Agendas

The schemas that still have to be declared, smallest name first. Every name that was ever put on the
agenda is remembered, so no name is declared twice, however the second one came about.
-/

namespace SchemaTypes
set_option autoImplicit false

/-- `s` among schemas in ascending order of their names. -/
def insertById (s : Schema) : List Schema → List Schema
  | [] => [s]
  | t :: more => if t.id < s.id then t :: insertById s more else s :: t :: more

@[simp] theorem mem_insertById {s t : Schema} {schemas : List Schema} :
    t ∈ insertById s schemas ↔ t = s ∨ t ∈ schemas := by
  induction schemas with
  | nil => simp [insertById]
  | cons u more ih =>
    simp only [insertById]
    split <;> simp [ih, or_left_comm]

/-- Inserting a new name keeps the ascending order. -/
theorem pairwise_insertById {s : Schema} {schemas : List Schema} (fresh : ∀ t ∈ schemas, t.id ≠ s.id)
    (ascending : schemas.Pairwise (·.id < ·.id)) : (insertById s schemas).Pairwise (·.id < ·.id) := by
  induction schemas with
  | nil => simp [insertById]
  | cons t more ih =>
    obtain ⟨least, rest⟩ := List.pairwise_cons.1 ascending
    simp only [insertById]
    split
    · next before =>
      refine List.pairwise_cons.2 ⟨?_, ih (fun u mem => fresh u (by simp [mem])) rest⟩
      intro u mem
      rcases mem_insertById.1 mem with rfl | mem
      · exact before
      · exact least u mem
    · next notBefore =>
      have above : s.id < t.id := by
        refine String.not_le.1 fun below => notBefore ?_
        exact String.not_le.1 fun above => fresh t (by simp) (String.le_antisymm below above)
      refine List.pairwise_cons.2 ⟨?_, ascending⟩
      intro u mem
      rcases List.mem_cons.1 mem with rfl | mem
      · exact above
      · exact String.lt_trans above (least u mem)

/-- Pending schemas in ascending order of their names, and the names of all schemas ever accepted. -/
structure Agenda where
  pending : List Schema := []
  seen : List String := []
  ascending : pending.Pairwise (·.id < ·.id) := by simp
  known : ∀ s ∈ pending, s.id ∈ seen := by simp

namespace Agenda

/-- An agenda with nothing on it. -/
def empty : Agenda := {}

/-- How many schemas are pending. -/
def length (agenda : Agenda) : Nat :=
  agenda.pending.length

/-- Whether nothing is pending. -/
def isEmpty (agenda : Agenda) : Bool :=
  agenda.pending.isEmpty

/-- Puts a schema on the agenda; a name that was on it before is refused. -/
def enqueue (agenda : Agenda) (s : Schema) : Except Defect Agenda :=
  if repeated : s.id ∈ agenda.seen then .error (.duplicate s.id)
  else .ok {
    pending := insertById s agenda.pending
    seen := s.id :: agenda.seen
    ascending := pairwise_insertById
      (fun t mem same => repeated (same ▸ agenda.known t mem)) agenda.ascending
    known := fun t mem => by
      rcases mem_insertById.1 mem with rfl | mem
      · simp
      · simp [agenda.known t mem] }

/-- Takes the pending schema with the smallest name. -/
def popMin (agenda : Agenda) : Option (Schema × Agenda) :=
  match at_ : agenda.pending with
  | [] => none
  | s :: more => some (s, {
      pending := more
      seen := agenda.seen
      ascending := (List.pairwise_cons.1 (at_ ▸ agenda.ascending)).2
      known := fun t mem => agenda.known t (by simp [at_, mem]) })

/-- Puts schemas on the agenda in turn. The first refusal ends it; what was accepted before stays, as the
agenda that is returned beside the outcome. -/
def enqueueAll (agenda : Agenda) : List Schema → Agenda × Traced Defect Unit
  | [] => (agenda, pure ())
  | s :: more =>
    match agenda.enqueue s with
    | .error defect => (agenda, Traced.fail defect)
    | .ok next =>
      let (last, outcome) := next.enqueueAll more
      (last, do Traced.report (.scheduled s.id); outcome)

end Agenda

end SchemaTypes
