import SchemaTypes.Proofs.Pass.Steps
import SchemaTypes.Proofs.Sheet

/-!
# Passes end, and how soon

A pass takes schemas off its agenda while it puts others on, and may put on more than it takes. What falls is
the number of nodes: a schema that is taken gives its own node up, and what is lifted out of it has no more than
the others. `Point.nodes` counts the nodes that are still pending or in hand, and with the number of names
taken it never grows. `Point.left` bounds the actions that are still to come.
-/

namespace SchemaTypes
set_option autoImplicit false

namespace Schema

theorem one_le_size (s : Schema) : 1 ≤ s.size := by
  cases s
  simp only [size]
  omega

theorem length_le_totalSize (schemas : List Schema) : schemas.length ≤ totalSize schemas := by
  induction schemas with
  | nil => exact Nat.le_refl _
  | cons s more ih =>
    have own := s.one_le_size
    simp only [List.length_cons, totalSize]
    omega

end Schema

/-- The roots of a document have the nodes of its schemas. -/
theorem Document.totalSize_roots (doc : Document) : Schema.totalSize doc.roots = Schema.entriesSize doc.schemas := by
  unfold roots
  induction doc.schemas with
  | nil => rfl
  | cons entry more ih =>
    obtain ⟨key, s⟩ := entry
    have own : (if s.id = "" then { s with id := key } else s).size = s.size := by
      split
      · exact s.size_with_id key
      · rfl
    rw [List.map_cons, Schema.totalSize, ih, Schema.entriesSize, Schema.entrySize.eq_def]
    exact congrArg (· + Schema.entriesSize more) own

namespace Agenda

/-- Schemas that are not refused are pending behind it. -/
theorem length_enqueue {agenda next : Agenda} {s : Schema} (accepted : agenda.enqueue s = .ok next) :
    next.pending.length = agenda.pending.length + 1 := by
  rw [(enqueue_eq_ok accepted).2.1]
  exact (perm_insertById s agenda.pending).length_eq

theorem length_popMin {agenda rest : Agenda} {s : Schema} (popped : agenda.popMin = some (s, rest)) :
    agenda.pending.length = rest.pending.length + 1 := by
  rw [(popMin_eq_some popped).1]
  rfl

theorem length_le_size (agenda : Agenda) : agenda.pending.length ≤ agenda.size :=
  Schema.length_le_totalSize agenda.pending

end Agenda

/-- The nodes in hand. The own node of a schema that is being declared does not count any more. -/
def Phase.nodes : Phase → Nat
  | .queue waiting => Schema.totalSize waiting
  | .declare s => s.size - 1
  | .stopped _ => 0

/-- The nodes that are pending or in hand. -/
def Point.nodes (p : Point) : Nat :=
  p.agenda.size + p.phase.nodes

/-- Every name taken costs a node, and no action adds one. -/
theorem Step.taken_add_nodes_le {p q : Point} (action : Step p q) :
    q.popped.length + q.nodes ≤ p.popped.length + p.nodes := by
  cases action with
  | accept accepted =>
    have grown := Agenda.size_enqueue accepted
    simp only [Point.nodes, Phase.nodes, Schema.totalSize]
    omega
  | refuse =>
    simp only [Point.nodes, Phase.nodes]
    omega
  | @take agenda rest s popped _ taken =>
    have fewer := Agenda.size_of_popMin taken
    have own := s.one_le_size
    simp only [Point.nodes, Phase.nodes, Schema.totalSize, List.length_append, List.length_singleton]
    omega
  | finish => exact Nat.le_refl _
  | @declare agenda s popped declarations declaration hoisted declared =>
    have fewer := Schema.totalSize_declare_lt declared
    simp only [Point.nodes, Phase.nodes]
    omega
  | fail =>
    simp only [Point.nodes, Phase.nodes]
    omega

/-- Names taken and nodes left do not grow together in any run. -/
theorem Reaches.taken_add_nodes_le {p q : Point} (run : Reaches p q) :
    q.popped.length + q.nodes ≤ p.popped.length + p.nodes := by
  induction run with
  | refl => exact Nat.le_refl _
  | step action _ ih => exact Nat.le_trans ih action.taken_add_nodes_le

/-- The actions that a phase may still lead to: every node in hand can be put on the agenda, taken and declared. -/
def Phase.left : Phase → Nat
  | .queue waiting => 3 * Schema.totalSize waiting + 1
  | .declare s => 3 * s.size - 1
  | .stopped _ => 0

/-- A bound on the actions still to come. A schema on the agenda has one of its three behind it. -/
def Point.left (p : Point) : Nat :=
  3 * p.agenda.size - p.agenda.pending.length + p.phase.left

/-- Every action is one of those that were left. -/
theorem Step.left_lt {p q : Point} (action : Step p q) : q.left < p.left := by
  cases action with
  | @accept agenda next s waiting _ _ accepted =>
    have size := Agenda.size_enqueue accepted
    have length := Agenda.length_enqueue accepted
    have enough := agenda.length_le_size
    have own := s.one_le_size
    simp only [Point.left, Phase.left, Schema.totalSize]
    omega
  | refuse =>
    simp only [Point.left, Phase.left]
    omega
  | @take agenda rest s _ _ taken =>
    have size := Agenda.size_of_popMin taken
    have length := Agenda.length_popMin taken
    have enough := rest.length_le_size
    have own := s.one_le_size
    simp only [Point.left, Phase.left, Schema.totalSize]
    omega
  | finish =>
    simp only [Point.left, Phase.left]
    omega
  | @declare agenda s _ _ declaration hoisted declared =>
    have fewer := Schema.totalSize_declare_lt declared
    simp only [Point.left, Phase.left]
    omega
  | @fail agenda s _ _ _ failed =>
    have own := s.one_le_size
    simp only [Point.left, Phase.left]
    omega

/-- What a declaration on a sheet lifts out has fewer nodes than the schema declared. -/
theorem Sheet.totalSize_writeDeclaration_lt {d : Dialect} {sheet : Sheet} {s : Schema} {hoisted : List Schema}
    (written : (sheet.writeDeclaration d s).2.result = .ok hoisted) : Schema.totalSize hoisted < s.size := by
  unfold writeDeclaration at written
  split at written
  · cases written
  · next declared =>
    cases written
    exact Schema.totalSize_declare_lt declared

/-- **Every pass ends, and soon.** What a declaration lifts out has fewer nodes than the schema declared. So from one
visit of the loop to any point behind the next schema taken, the pending nodes fall. No run goes on for ever, from
whatever point, the one of a document stops as the document does, and it takes no more schemas off the agenda than
the document has nodes. -/
theorem pass_ends_within_nodes (d : Dialect) (sheet : Sheet) (doc : Document) :
    (∀ s hoisted, (sheet.writeDeclaration d s).2.result = .ok hoisted → Schema.totalSize hoisted < s.size) ∧
      (∀ head later : Point, Reaches doc.start head → head.phase = .queue [] → Reaches head later →
        head.popped.length < later.popped.length → later.agenda.size < head.agenda.size) ∧
      (¬ ∃ run : Nat → Point, ∀ n, Step (run n) (run (n + 1))) ∧
      (∃ last, Reaches doc.start last ∧ last.phase = .stopped (sheet.writeDocument d doc).2.result) ∧
      ∀ point, Reaches doc.start point → point.popped.length ≤ Schema.entriesSize doc.schemas := by
  refine ⟨fun _ _ => Sheet.totalSize_writeDeclaration_lt, ?_, ?_, ?_, ?_⟩
  · intro head later _ visit run more
    have bound := run.taken_add_nodes_le
    have inHand : head.phase.nodes = 0 := by rw [visit]; rfl
    simp only [Point.nodes] at bound
    omega
  · rintro ⟨run, actions⟩
    have falls : ∀ n, (run n).left + n ≤ (run 0).left := by
      intro n
      induction n with
      | zero => exact Nat.le_refl _
      | succ n ih =>
        have less := (actions n).left_lt
        omega
    have tooMany := falls ((run 0).left + 1)
    omega
  · obtain ⟨last, run, ending, -⟩ := doc.reaches_stopped
    refine ⟨last, run, ?_⟩
    rw [ending, Sheet.result_writeDocument]
  · intro point run
    have bound := run.taken_add_nodes_le
    have start : doc.start.nodes = Schema.entriesSize doc.schemas := by
      rw [← doc.totalSize_roots]
      exact Nat.zero_add _
    have none : doc.start.popped.length = 0 := rfl
    omega

end SchemaTypes
