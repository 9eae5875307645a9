/-!
# Paths

A path is a text whose pieces stand between slashes. Of its pieces, empty ones and single points say
nothing, except for a point in front; paths are ordered piece by piece.
-/

namespace SchemaTypes.Files
set_option autoImplicit false

/-- A path as text. -/
abbrev Path := String

/-- A piece of a path that says something. -/
inductive Component where
  | root
  | current
  | parent
  | name (text : String)
deriving DecidableEq, Repr

namespace Component

/-- The order of components: the root, the point, two points, and then the names. -/
def precedes : Component → Component → Bool
  | name a, name b => a < b
  | a, b => rank a < rank b
where
  /-- The position of a kind of component in the order. -/
  rank : Component → Nat
    | root => 0
    | current => 1
    | parent => 2
    | name _ => 3

/-- The component of a piece behind the first one. -/
def ofPiece? (piece : String) : Option Component :=
  if piece = "" ∨ piece = "." then none
  else if piece = ".." then some parent
  else some (name piece)

/-- The component of the first piece, which a slash follows if `slash` is set. -/
def ofFirst? (piece : String) (slash : Bool) : Option Component :=
  if piece = "" then (if slash then some root else none)
  else if piece = "." then some current
  else ofPiece? piece

end Component

namespace Path

/-- The characters of a path up to each slash. -/
def splitSlash : List Char → List (List Char)
  | [] => [[]]
  | c :: more =>
    if c = '/' then [] :: splitSlash more
    else
      match splitSlash more with
      | [] => [[c]]
      | piece :: pieces => (c :: piece) :: pieces

/-- The pieces of a path. -/
def pieces (path : Path) : List String :=
  (splitSlash path.toList).map String.ofList

/-- The components of a path. -/
def components (path : Path) : List Component :=
  match pieces path with
  | [] => []
  | first :: more =>
    (Component.ofFirst? first !more.isEmpty).toList ++ more.filterMap Component.ofPiece?

/-- The order of paths, component by component. -/
def componentsLe : List Component → List Component → Bool
  | [], _ => true
  | _ :: _, [] => false
  | a :: as, b :: bs => if a = b then componentsLe as bs else a.precedes b

/-- Whether a path stands before another one or at the same place. -/
def le (a b : Path) : Bool :=
  componentsLe (components a) (components b)

/-- Whether a path is the point alone. -/
def isCurrent (path : Path) : Bool :=
  path.startsWith "." && components path = [.current]

/-- A path behind another one. -/
def join (path : Path) (more : String) : Path :=
  if path = "" ∨ path.endsWith "/" then path ++ more else path ++ "/" ++ more

/-- Whether a piece behind the first one says nothing. -/
def saysNothing (piece : String) : Bool :=
  piece == "" || piece == "."

/-- The path of a first piece and the reversed pieces behind it. -/
def ofReversed (first : String) (reversed : List String) : Path :=
  let more := (reversed.dropWhile saysNothing).reverse
  if first = "" ∧ more = [] then "/" else "/".intercalate (first :: more)

/-- The paths around one with a given first piece and reversed pieces behind it, the nearest first. A
relative path lies in the empty path, a rooted one in the root. -/
def around (first : String) (rooted : Bool) : List String → List Path
  | [] => if rooted || first == "" then [] else [""]
  | piece :: outer =>
    if saysNothing piece then around first rooted outer
    else ofReversed first outer :: around first rooted outer

/-- The paths around a path, the nearest first. -/
def parents (path : Path) : List Path :=
  match pieces path with
  | [] => []
  | first :: more => around first (first == "" && !more.isEmpty) more.reverse

end Path

end SchemaTypes.Files
