import SchemaTypes.Entries
import SchemaTypes.Files.Path
import SchemaTypes.Text.Bytes

/-!
# File trees

Files and directories with a working directory in them. Paths are followed piece by piece: every piece
but the last leads through a directory. Reading, writing and making directories report what an operating
system reports.
-/

namespace SchemaTypes.Files
set_option autoImplicit false

/-- A file or a directory; a locked directory can be neither listed nor entered. -/
inductive Node where
  | file (content : Bytes)
  | directory (entries : List (String × Node))
  | locked
deriving Inhabited

/-- Why a path could not be used, or a stream could not be read. -/
inductive SystemError where
  | notFound
  | accessDenied
  | alreadyExists
  | notDirectory
  | isDirectory
  | nameTooLong
  | nulInName
  /-- An error that no path leads to. -/
  | other (wording : String)
deriving DecidableEq, Repr

/-- The wording of an error. -/
def SystemError.message : SystemError → String
  | notFound => "No such file or directory (os error 2)"
  | accessDenied => "Permission denied (os error 13)"
  | alreadyExists => "File exists (os error 17)"
  | notDirectory => "Not a directory (os error 20)"
  | isDirectory => "Is a directory (os error 21)"
  | nameTooLong => "File name too long (os error 36)"
  | nulInName => "file name contained an unexpected NUL byte"
  | other wording => wording

/-- The names that lead from the root to a node. -/
abbrev Location := List String

namespace Node

/-- Whether a node is a directory, locked or not. -/
def isDirectory : Node → Bool
  | file _ => false
  | _ => true

/-- The node at a location below this one. -/
def at? (node : Node) : Location → Option Node
  | [] => some node
  | name :: more =>
    match node with
    | directory entries => (entries.lookup name).bind (at? · more)
    | _ => none

/-- Puts a node at a location below this one; there has to be a directory for it. -/
def put (node : Node) (new : Node) : Location → Node
  | [] => new
  | name :: more =>
    match node with
    | directory entries =>
      directory (assign name (((entries.lookup name).getD (directory [])).put new more) entries)
    | _ => node

end Node

/-- A tree of files, and the location in it that relative paths start from. -/
structure Disk where
  root : Node
  working : Location

/-- The longest name of a file, in bytes. -/
def maxName : Nat := 255

/-- The longest path, in bytes. -/
def maxPath : Nat := 4095

namespace Disk

/-- The location that one piece of a path leads to. -/
def follow (disk : Disk) (location : Location) (piece : String) : Except SystemError Location :=
  match disk.root.at? location with
  | none => .error .notFound
  | some (.file _) => .error .notDirectory
  | some .locked => if piece = "" then .ok location else .error .accessDenied
  | some (.directory entries) =>
    if piece = "" ∨ piece = "." then .ok location
    else if piece = ".." then .ok location.dropLast
    else if maxName < piece.utf8ByteSize then .error .nameTooLong
    else if (entries.lookup piece).isSome then .ok (location ++ [piece])
    else .error .notFound

/-- The location that pieces lead to, one after the other. -/
def followAll (disk : Disk) (location : Location) : List String → Except SystemError Location
  | [] => .ok location
  | piece :: more =>
    match disk.follow location piece with
    | .error e => .error e
    | .ok next => disk.followAll next more

/-- Where a path starts, and its pieces; some texts are no paths. -/
def start (disk : Disk) (path : Path) : Except SystemError (Location × List String) :=
  if path.toList.contains '\x00' then .error .nulInName
  else if path = "" then .error .notFound
  else if maxPath < path.utf8ByteSize then .error .nameTooLong
  else
    let pieces := Path.pieces path
    .ok (if pieces.head? = some "" then ([], pieces.tail) else (disk.working, pieces))

/-- The location of a path. -/
def locate (disk : Disk) (path : Path) : Except SystemError Location := do
  let (location, pieces) ← disk.start path
  disk.followAll location pieces

/-- The node at a path. -/
def node? (disk : Disk) (path : Path) : Option Node :=
  match disk.locate path with
  | .ok location => disk.root.at? location
  | .error _ => none

/-- Whether a path leads to a directory. -/
def isDirectory (disk : Disk) (path : Path) : Bool :=
  (disk.node? path).any Node.isDirectory

/-- The content of the file at a path. -/
def read (disk : Disk) (path : Path) : Except SystemError Bytes := do
  match disk.root.at? (← disk.locate path) with
  | some (.file content) => .ok content
  | some (.directory _) => .error .isDirectory
  | some .locked => .error .accessDenied
  | none => .error .notFound

/-- The last piece of a path that says anything, the directory it is looked up in, and whether a slash
follows it. -/
structure Target where
  directory : Location
  name : String
  slash : Bool

/-- What a path names that need not exist yet; the directory around it has to. -/
def target (disk : Disk) (path : Path) : Except SystemError Target := do
  let (location, pieces) ← disk.start path
  let named := (pieces.reverse.dropWhile (· == "")).reverse
  let directory ← disk.followAll location named.dropLast
  match disk.root.at? directory with
  | some (.directory _) => .ok ⟨directory, named.getLast?.getD "", named.length < pieces.length⟩
  | some (.file _) => .error .notDirectory
  | some .locked => .error .accessDenied
  | none => .error .notFound

/-- Whether a target is the root, a point or two points, and so always a directory. -/
def Target.isDots (target : Target) : Bool :=
  target.name == "" || target.name == "." || target.name == ".."

/-- Where a target is. -/
def Target.location (target : Target) : Location :=
  target.directory ++ [target.name]

/-- Puts a node at a location. -/
def put (disk : Disk) (location : Location) (node : Node) : Disk :=
  { disk with root := disk.root.put node location }

/-- Makes a directory where there is nothing. -/
def makeDirectory (disk : Disk) (path : Path) : Except SystemError Disk := do
  let target ← disk.target path
  if target.isDots then .error .alreadyExists
  else if maxName < target.name.utf8ByteSize then .error .nameTooLong
  else if (disk.root.at? target.location).isSome then .error .alreadyExists
  else .ok (disk.put target.location (.directory []))

/-- Makes the first of some directories, of which each lies in the next one, and of the others what is
missing. What was made before a failure stays. -/
def makeDirectories (disk : Disk) : List Path → Disk × Except SystemError Unit
  | [] => (disk, .ok ())
  | path :: outer =>
    if path = "" then (disk, .ok ())
    else
      match disk.makeDirectory path with
      | .ok made => (made, .ok ())
      | .error .notFound =>
        match disk.makeDirectories outer with
        | (made, .error e) => (made, .error e)
        | (made, .ok ()) =>
          match made.makeDirectory path with
          | .ok made' => (made', .ok ())
          | .error e => (made, if made.isDirectory path then .ok () else .error e)
      | .error e => (disk, if disk.isDirectory path then .ok () else .error e)

/-- Writes a file, in place of the one that may be there. -/
def write (disk : Disk) (path : Path) (content : Bytes) : Except SystemError Disk := do
  let target ← disk.target path
  if target.slash || target.isDots then .error .isDirectory
  else if maxName < target.name.utf8ByteSize then .error .nameTooLong
  else if (disk.root.at? target.location).any Node.isDirectory then .error .isDirectory
  else .ok (disk.put target.location (.file content))

end Disk

end SchemaTypes.Files
