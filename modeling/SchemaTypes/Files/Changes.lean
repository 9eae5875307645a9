import SchemaTypes.Files.Tree

/-!
# Changes on a disk

What is new or different below the working directory of a disk.
-/

namespace SchemaTypes.Files
set_option autoImplicit false

namespace Node

mutual

/-- The paths of all nodes inside a node that is reached by `path`, with the contents of files. -/
def inside (path : Path) : Node → List (Path × Option Bytes)
  | directory entries => entriesInside path entries
  | _ => []

/-- The paths of entries and of what is inside them. -/
def entriesInside (path : Path) : List (String × Node) → List (Path × Option Bytes)
  | [] => []
  | entry :: more => entryInside path entry ++ entriesInside path more

/-- The path of an entry and of what is inside it. -/
def entryInside (path : Path) : String × Node → List (Path × Option Bytes)
  | (name, file content) => [(path ++ name, some content)]
  | (name, node) => (path ++ name, none) :: node.inside (path ++ name ++ "/")

end

end Node

/-- The paths below the working directory, with the contents of files. -/
def Disk.listing (disk : Disk) : List (Path × Option Bytes) :=
  ((disk.root.at? disk.working).map (·.inside "")).getD []

/-- The paths that are new or different in `after`, in ascending order. -/
def Disk.changes (before after : Disk) : List (Path × Option Bytes) :=
  let old := before.listing
  sortedByKey (after.listing.filter fun item => !old.contains item)

end SchemaTypes.Files
