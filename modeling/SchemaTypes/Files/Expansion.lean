import SchemaTypes.Files.Tree
import SchemaTypes.Files.Wildcard

/-!
# Expanding a pattern

The paths of a tree that match a pattern, found piece by piece: a name is looked up, a wild piece is
held against every entry of a directory, and any number of directories are tried in turn. The paths keep
the literal front of the pattern.
-/

namespace SchemaTypes.Files
set_option autoImplicit false

open Wildcard (Piece)

/-- Why a pattern has no expansion. -/
inductive ExpansionError where
  | mistake (mistake : Wildcard.Mistake)
  | unlisted (path : Path) (error : SystemError)
deriving DecidableEq, Repr

/-- The wording of an error. -/
def ExpansionError.message : ExpansionError → String
  | mistake m => m.message
  | unlisted path error => s!"attempting to read `{path}` resulted in an error: {error.message}"

/-- A path that was reached, with the location and the node it leads to. -/
structure Reached where
  path : Path
  location : Location
  node : Node

namespace Reached

/-- The entry `name` of a directory that was reached; below the point alone a path begins anew. -/
def entry (reached : Reached) (name : String) (node : Node) : Reached where
  path := if Path.isCurrent reached.path then name else Path.join reached.path name
  location := reached.location ++ [name]
  node := node

/-- What a path leads to, if it leads anywhere. -/
def ofPath? (disk : Disk) (path : Path) : Option Reached :=
  match disk.locate path with
  | .ok location => (disk.root.at? location).map fun node => ⟨path, location, node⟩
  | .error _ => none

/-- What one or two points behind a directory lead to. They are not looked up; where the path is too long to be
followed they count as no directory. -/
def dots (disk : Disk) (reached : Reached) (path : Path) : Reached :=
  (ofPath? disk path).getD { reached with path := path, node := .file [] }

/-- The path reached by a literal piece, if it leads anywhere. -/
def named? (disk : Disk) (reached : Reached) (name : String) : Option Reached :=
  let path := if Path.isCurrent reached.path then name else Path.join reached.path name
  if name = "." ∨ name = ".." then
    if reached.node.isDirectory then some (reached.dots disk path) else none
  else ofPath? disk path

end Reached

/-- A path that matches, or the directory that could not be listed instead. -/
abbrev Match := Except ExpansionError Path

/-- The match at the end of a pattern; a pattern that ends in a slash wants a directory. -/
def finish (wantsDirectory : Bool) (reached : Reached) : List Match :=
  if wantsDirectory && !reached.node.isDirectory then [] else [.ok reached.path]

/-- An entry is smaller than its directory. -/
theorem sizeOf_entry_lt {name : String} {child : Node} {entries : List (String × Node)}
    (listed : (name, child) ∈ entries) : sizeOf child < sizeOf (Node.directory entries) := by
  have := List.sizeOf_lt_of_mem listed
  simp only [Prod.mk.sizeOf_spec, Node.directory.sizeOf_spec] at *
  omega

theorem length_dropWhile_le (pieces : List Piece) :
    (pieces.dropWhile (· == .directories)).length ≤ pieces.length :=
  (List.dropWhile_sublist _).length_le

mutual

/-- The matches of pieces below a path that was reached. -/
def below (disk : Disk) (wantsDirectory : Bool) (pieces : List Piece) (reached : Reached) : List Match :=
  match pieces with
  | [] => finish wantsDirectory reached
  | .name text :: more =>
    match reached.named? disk text with
    | some next => below disk wantsDirectory more next
    | none => []
  | piece :: more =>
    match node : reached.node with
    | .file _ => []
    | .locked => [.error (.unlisted reached.path .accessDenied)]
    | .directory entries =>
      if maxPath < reached.path.utf8ByteSize then [.error (.unlisted reached.path .nameTooLong)]
      else
        (["..", "."].filter fun name => piece.acceptsDots name).flatMap (fun name =>
          below disk wantsDirectory more (reached.dots disk (Path.join reached.path name)))
        ++ (sortedByKey entries).attach.flatMap fun ⟨(name, child), listed⟩ =>
          have : sizeOf child < sizeOf reached.node :=
            node ▸ sizeOf_entry_lt (mem_sortedByKey.1 listed)
          entryMatches disk wantsDirectory (piece :: more) name (reached.entry name child)
termination_by (pieces.length, sizeOf reached.node, 0)
decreasing_by
  · exact Prod.Lex.left _ _ (Nat.lt_succ_self _)
  · exact Prod.Lex.left _ _ (Nat.lt_succ_self _)
  · exact Prod.Lex.right _ (Prod.Lex.left _ _ this)

/-- The matches of pieces, of which the first is held against `name`, the entry that was reached itself. -/
def entryMatches (disk : Disk) (wantsDirectory : Bool) (pieces : List Piece) (name : String)
    (reached : Reached) : List Match :=
  match pieces with
  | [] => []
  | .directories :: more =>
    let rest := more.dropWhile (· == .directories)
    if reached.node.isDirectory then
      (if rest.isEmpty then [.ok reached.path] else entryMatches disk wantsDirectory rest name reached)
        ++ below disk wantsDirectory (.directories :: rest) reached
    else entryMatches disk wantsDirectory rest name reached
  | piece :: more =>
    if piece.accepts name then
      if more.isEmpty then finish wantsDirectory reached
      else below disk wantsDirectory more reached
    else []
termination_by (pieces.length, sizeOf reached.node, 1)
decreasing_by
  · exact Prod.Lex.left _ _ (Nat.lt_succ_of_le (length_dropWhile_le more))
  · rcases Nat.lt_or_eq_of_le (length_dropWhile_le more) with shorter | same
    · exact Prod.Lex.left _ _ (Nat.succ_lt_succ shorter)
    · simp only [List.length_cons, same]
      exact Prod.Lex.right _ (Prod.Lex.right _ Nat.zero_lt_one)
  · exact Prod.Lex.left _ _ (Nat.lt_succ_of_le (length_dropWhile_le more))
  · exact Prod.Lex.left _ _ (Nat.lt_succ_self _)

end

/-- The pieces of a pattern behind its front, of which the last may be empty. -/
def piecesOf (pattern : String) : Except Wildcard.Mistake (List Piece) :=
  let texts := Path.pieces pattern
  let texts := if texts.getLast? = some "" then texts.dropLast else texts
  texts.mapM fun text => (Wildcard.tokens text).map Piece.ofTokens

/-- The paths that match a pattern, or the first of them that could not be told. The pattern has to be
right as a whole and piece by piece; a slash in front leads to the root. -/
def Disk.expand (disk : Disk) (pattern : String) : Except ExpansionError (List Path) := do
  let _ ← (Wildcard.tokens pattern).mapError .mistake
  let (path, location, rest) : Path × Location × List Char :=
    match pattern.toList with
    | '/' :: rest => ("/", [], rest)
    | rest => (".", disk.working, rest)
  let pieces ← (piecesOf (String.ofList rest)).mapError .mistake
  let wantsDirectory := pattern.toList.getLast? == some '/'
  match disk.root.at? location with
  | none => .ok []
  | some node => (below disk wantsDirectory pieces ⟨path, location, node⟩).mapM id

end SchemaTypes.Files
