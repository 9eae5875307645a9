import SchemaTypes.Files.Expansion
import SchemaTypes.Proofs.Traced

/-!
# Matches of a pattern

Expanding a pattern has two parts. The pattern is read, as a whole and piece by piece, and it is valid if this
succeeds. A valid pattern has matches, which are found one after the other, and each of them is a path or a directory
that could not be listed. The expansion is the list of all matches in the order in which they were found, or the first
directory among them that could not be listed.
-/

namespace SchemaTypes.Files
set_option autoImplicit false

open Wildcard (Piece)

namespace Wildcard

/-- The text of a pattern behind the slash that leads to the root. -/
def behindRoot (pattern : String) : List Char :=
  match pattern.toList with
  | '/' :: rest => rest
  | chars => chars

/-- Reads a pattern as a whole, and then piece by piece. -/
def read (pattern : String) : Except Mistake (List Piece) := do
  let _ ← tokens pattern
  piecesOf (String.ofList (behindRoot pattern))

/-- Whether a pattern is valid. -/
def Valid (pattern : String) : Prop :=
  ∃ pieces, read pattern = .ok pieces

end Wildcard

/-- Where the matches of a pattern begin: at the root, or where relative paths do. -/
def Disk.front (disk : Disk) (pattern : String) : Path × Location :=
  match pattern.toList with
  | '/' :: _ => ("/", [])
  | _ => (".", disk.working)

/-- The matches of a pattern, as they are found one after the other; one that is not valid has none. -/
def Disk.matchesOf (disk : Disk) (pattern : String) : List Match :=
  match Wildcard.read pattern, disk.root.at? (disk.front pattern).2 with
  | .ok pieces, some node =>
    below disk (pattern.toList.getLast? == some '/') pieces ⟨(disk.front pattern).1, (disk.front pattern).2, node⟩
  | _, _ => []

theorem Disk.front_eq (disk : Disk) (pattern : String) :
    (match pattern.toList with
      | '/' :: rest => ("/", [], rest)
      | chars => (".", disk.working, chars)) =
      ((disk.front pattern).1, (disk.front pattern).2, Wildcard.behindRoot pattern) := by
  unfold front Wildcard.behindRoot
  split <;> rfl

/-- **An expansion collects the matches of a valid pattern.** -/
theorem Disk.expand_eq (disk : Disk) (pattern : String) :
    disk.expand pattern =
      match Wildcard.read pattern with
      | .error m => .error (.mistake m)
      | .ok _ => (disk.matchesOf pattern).mapM id := by
  unfold expand matchesOf Wildcard.read
  cases Wildcard.tokens pattern with
  | error m => rfl
  | ok tokens =>
    split
    next path location rest begins =>
      obtain ⟨rfl, both⟩ := Prod.mk.inj ((disk.front_eq pattern).symm.trans begins)
      obtain ⟨rfl, rfl⟩ := Prod.mk.inj both
      simp only [bind, Except.bind]
      cases piecesOf (String.ofList (Wildcard.behindRoot pattern)) with
      | error m => rfl
      | ok pieces =>
        cases disk.root.at? (disk.front pattern).2 <;> rfl

namespace Disk

variable {disk : Disk} {pattern : String}

/-- **When a pattern has an expansion**: it is valid, and all of its matches are paths. -/
theorem expand_eq_ok_iff {paths : List Path} :
    disk.expand pattern = .ok paths ↔ Wildcard.Valid pattern ∧ disk.matchesOf pattern = paths.map .ok := by
  rw [expand_eq, Wildcard.Valid]
  cases Wildcard.read pattern with
  | error m => simp
  | ok pieces => simp [mapM_id_eq_ok]

/-- **Why a pattern has no expansion**: it is not valid, or one of its matches could not be told. -/
theorem expand_eq_error_iff {e : ExpansionError} :
    disk.expand pattern = .error e ↔
      (∃ m, Wildcard.read pattern = .error m ∧ e = .mistake m) ∨
        Wildcard.Valid pattern ∧
          ∃ (paths : List Path) (rest : List Match),
            disk.matchesOf pattern = paths.map .ok ++ .error e :: rest := by
  rw [expand_eq, Wildcard.Valid]
  cases Wildcard.read pattern with
  | error m => simp [eq_comm]
  | ok pieces => simp [mapM_id_eq_error]

end Disk

end SchemaTypes.Files
