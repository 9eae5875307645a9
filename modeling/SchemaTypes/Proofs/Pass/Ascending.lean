import SchemaTypes.Proofs.Agenda
import SchemaTypes.Proofs.Declaration
import SchemaTypes.Proofs.Pass.Steps
import SchemaTypes.Proofs.Sheet
import SchemaTypes.Proofs.Text.ByteOrder

/-!
# Names ascend

A queue that always gives its least element up does not by itself give an ascending sequence, since a pass
puts schemas on the agenda while it takes others off. It ascends because what a declaration lifts out is
named by a path below the declaration, so its name is not smaller, and because an equal name has been seen
and is refused. `Ordered` says so of one point of a run, and every action keeps it.
-/

namespace SchemaTypes
set_option autoImplicit false

/-- A path comes before every path below it, or is equal to it. -/
theorem le_append (path steps : String) : path ≤ path ++ steps := by
  show ¬ (path ++ steps).toList < path.toList
  rw [String.toList_append]
  exact List.le_append_left

/-- The schemas that a phase still has in hand, apart from the agenda. -/
def Phase.inHand : Phase → List Schema
  | .queue waiting => waiting
  | .declare s => [s]
  | .stopped _ => []

/-- How the names of the declarations made are related to the names taken: the last one taken may still
have to be declared, or may have failed. -/
def Phase.Accounts (declared popped : List String) : Phase → Prop
  | .queue _ => declared = popped
  | .declare s => declared ++ [s.id] = popped
  | .stopped _ => declared <+: popped

/-- The order of names at one point of a run. -/
structure Ordered (p : Point) : Prop where
  popped : p.popped.Pairwise (· < ·)
  pending : ∀ s ∈ p.agenda.pending, ∀ name ∈ p.popped, name < s.id
  inHand : ∀ s ∈ p.phase.inHand, ∀ name ∈ p.popped, name ≤ s.id
  seen : ∀ name ∈ p.popped, name ∈ p.agenda.seen
  declared : p.phase.Accounts (p.declarations.map (·.id)) p.popped

/-- What was declared was taken before, in the same order. -/
theorem Ordered.declared_prefix {p : Point} (ordered : Ordered p) :
    p.declarations.map (·.id) <+: p.popped := by
  have accounts := ordered.declared
  cases phase : p.phase with
  | queue waiting =>
    rw [phase] at accounts
    exact accounts ▸ List.prefix_refl _
  | declare s =>
    rw [phase] at accounts
    exact ⟨[s.id], accounts⟩
  | stopped ending =>
    rw [phase] at accounts
    exact accounts

theorem Ordered.start (doc : Document) : Ordered doc.start where
  popped := .nil
  pending := by simp [Document.start]
  inHand := by simp [Document.start]
  seen := by simp [Document.start]
  declared := rfl

/-- **Every action keeps the order of names.** -/
theorem Ordered.step {p q : Point} (action : Step p q) (ordered : Ordered p) : Ordered q := by
  obtain ⟨ascending, pending, inHand, seen, declared⟩ := ordered
  cases action with
  | @accept agenda next s waiting popped declarations accepted =>
    obtain ⟨new, pending', seen'⟩ := Agenda.enqueue_eq_ok accepted
    refine ⟨ascending, ?_, fun t mem => inHand t (List.mem_cons_of_mem s mem), ?_, declared⟩
    · intro t mem name taken
      rcases mem_insertById.1 (pending' ▸ mem) with rfl | mem
      -- An equal name has been seen, so that the agenda would not have accepted it.
      · refine Std.lt_of_le_of_ne (inHand t List.mem_cons_self name taken) ?_
        rintro rfl
        exact new (seen _ taken)
      · exact pending t mem name taken
    · intro name taken
      exact seen' ▸ List.mem_cons_of_mem _ (seen name taken)
  | refuse => exact ⟨ascending, pending, by simp [Phase.inHand], seen, declared ▸ List.prefix_refl _⟩
  | @take agenda rest s popped declarations taken =>
    obtain ⟨split, seen'⟩ := Agenda.popMin_eq_some taken
    have above : ∀ name ∈ popped, name < s.id := pending s (split ▸ List.mem_cons_self)
    refine ⟨?_, ?_, ?_, ?_, congrArg (· ++ [s.id]) declared⟩
    · refine List.pairwise_append.2 ⟨ascending, List.pairwise_singleton _ _, ?_⟩
      intro name mem other same
      exact List.mem_singleton.1 same ▸ above name mem
    · intro t mem
      have least := Agenda.lt_of_popMin taken mem
      exact List.forall_mem_append.2
        ⟨pending t (split ▸ List.mem_cons_of_mem s mem), List.forall_mem_singleton.2 least⟩
    · intro t mem
      cases List.mem_singleton.1 mem
      exact List.forall_mem_append.2
        ⟨fun name mem => Std.le_of_lt (above name mem), List.forall_mem_singleton.2 (Std.le_refl _)⟩
    · rw [seen']
      exact List.forall_mem_append.2
        ⟨seen, List.forall_mem_singleton.2 (agenda.known s (split ▸ List.mem_cons_self))⟩
  | finish => exact ⟨ascending, pending, by simp [Phase.inHand], seen, declared ▸ List.prefix_refl _⟩
  | @declare agenda s popped declarations declaration hoisted declared' =>
    obtain ⟨-, -, rfl, rfl⟩ := Schema.result_declare.1 declared'
    refine ⟨ascending, pending, ?_, seen, ?_⟩
    · intro t mem name taken
      obtain ⟨steps, below⟩ := (Site.liftedUnder_of_mem_lifted mem).below
      rw [below]
      exact Std.le_trans (inHand s List.mem_cons_self name taken) (le_append _ steps)
    · exact (List.map_append ..).trans declared
  | @fail agenda s popped declarations defect failed =>
    exact ⟨ascending, pending, by simp [Phase.inHand], seen, ⟨[s.id], declared⟩⟩

/-- The names are in order at every point of a run. -/
theorem Ordered.of_reaches {doc : Document} {p : Point} (run : Reaches doc.start p) : Ordered p :=
  run.invariant (fun _ _ => Ordered.step) (Ordered.start doc)

/-- The declarations of a pass are in the order of their names, however the pass ends. -/
theorem Document.ascending_declarations (doc : Document) :
    (doc.pass.declarations.map (·.id)).Pairwise (· < ·) := by
  obtain ⟨last, run, -, made⟩ := doc.reaches_stopped
  have ordered := Ordered.of_reaches run
  rw [← made]
  exact ordered.popped.sublist ordered.declared_prefix.sublist

/-- No name is declared twice. -/
theorem Document.distinct_ids (doc : Document) : (doc.pass.declarations.map (·.id)).Nodup :=
  doc.ascending_declarations.imp Std.ne_of_lt

/-- **Names ascend in every run**: the names taken, the names declared, and every pending name after every
name taken. The run is the one that a document leaves on a sheet, and may end either way. -/
theorem names_ascend (d : Dialect) (sheet : Sheet) (doc : Document) :
    (∃ last, Reaches doc.start last ∧ last.phase = .stopped (sheet.writeDocument d doc).2.result ∧
      (sheet.writeDocument d doc).1.text =
        sheet.text ++ d.header doc.name ++ d.spellDeclarations last.declarations ++
          d.footerAfter (sheet.writeDocument d doc).2.result) ∧
    ∀ point, Reaches doc.start point →
      point.popped.Pairwise Utf8.Before ∧ (point.declarations.map (·.id)).Pairwise Utf8.Before ∧
        ∀ s ∈ point.agenda.pending, ∀ name ∈ point.popped, Utf8.Before name s.id := by
  constructor
  · obtain ⟨last, run, ending, made⟩ := doc.reaches_stopped
    refine ⟨last, run, ?_, ?_⟩
    · rw [ending, Sheet.result_writeDocument]
    · rw [made, Sheet.text_writeDocument, Sheet.result_writeDocument]
  · intro point run
    have ordered := Ordered.of_reaches run
    have taken : point.popped.Pairwise Utf8.Before := ordered.popped.imp Utf8.before_iff_lt.2
    refine ⟨taken, taken.sublist ordered.declared_prefix.sublist, ?_⟩
    intro s mem name earlier
    exact Utf8.before_iff_lt.2 (ordered.pending s mem name earlier)

end SchemaTypes
