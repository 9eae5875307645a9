import SchemaTypes.CommandLine.Run
import SchemaTypes.Files.Changes

/-!
# The program

A picture of the disk is taken that holds what a request can reach, the request is run on the picture,
and what the run changed in it is carried out.
-/

namespace SchemaTypes.Program
set_option autoImplicit false

open CommandLine Files

/-- What stands at a path: a directory without its entries or a file without its content. -/
def nodeAt (path : Path) : IO (Option Node) := do
  match ← (System.mkFilePath [path]).metadata.toBaseIO with
  | .error _ => pure none
  | .ok found => pure (some (if found.type == .dir then .directory [] else .file []))

/-- The place of a path in a picture. -/
def placeOf (working : Location) (path : Path) : Location :=
  (Path.components path).foldl (fun location component =>
    match component with
    | .root => []
    | .current => location
    | .parent => location.dropLast
    | .name text => location ++ [text]) working

/-- Adds a node to a picture, unless something is there. -/
def add (disk : Disk) (path : Path) (node : Node) : Disk :=
  let location := placeOf disk.working path
  if (disk.root.at? location).isSome then disk else disk.put location node

/-- Adds what stands at a path and at the paths around it. -/
def addPath (disk : Disk) (path : Path) : IO Disk :=
  ((path :: Path.parents path).reverse.filter (· != "")).foldlM (fun disk path => do
    pure (((← nodeAt path).map (add disk path)).getD disk)) disk

/-- Adds what lies below a directory, down to a depth. A directory that cannot be listed is locked. -/
def addBelow (depth : Nat) (disk : Disk) (path : Path) : IO Disk :=
  match depth with
  | 0 => pure disk
  | depth + 1 => do
    match ← (System.mkFilePath [if path = "" then "." else path]).readDir.toBaseIO with
    | .error _ => pure (disk.put (placeOf disk.working path) .locked)
    | .ok entries =>
      entries.toList.foldlM (fun disk entry => do
        let inner := if path = "" then entry.fileName else Path.join path entry.fileName
        match ← nodeAt inner with
        | none => pure disk
        | some node =>
          let disk := add disk inner node
          if node.isDirectory then addBelow depth disk inner else pure disk) disk

/-- Adds the content of the file at a path; a file that cannot be read is locked. -/
def addContent (disk : Disk) (path : Path) : IO Disk := do
  let disk ← addPath disk path
  match ← (IO.FS.readBinFile path).toBaseIO with
  | .ok content => pure (disk.put (placeOf disk.working path) (.file content.toList))
  | .error _ =>
    match disk.node? path with
    | some (.file _) => pure (disk.put (placeOf disk.working path) .locked)
    | _ => pure disk

/-- Adds what a pattern can match: as many levels below its literal front as it has pieces behind it, and
all levels where it stands for any number of directories. -/
def addPattern (disk : Disk) (pattern : String) : IO Disk := do
  let pieces := Path.pieces pattern
  let front := "/".intercalate (pieces.takeWhile (!isPattern ·))
  let front := if front = "" && pieces.head? == some "" then "/" else front
  let levels := if pieces.contains "**" then maxPath else pieces.length
  let disk ← addPath disk front
  match disk.node? (if front = "" then "." else front) with
  | some (.directory _) => addBelow levels disk front
  | _ => pure disk

/-- A picture of what a request can reach. -/
def picture (request : Request) : IO Disk := do
  let here ← IO.currentDir
  let working := placeOf [] here.toString
  let disk : Disk := ⟨(Node.directory []).put (.directory []) working, working⟩
  let disk ← (request.inputs.filter isPattern).foldlM addPattern disk
  let inputs := match resolveInputs disk.expand request.inputs with
    | .ok inputs => inputs
    | .error _ => []
  let disk ← inputs.foldlM (fun disk input =>
    match input with
    | .standardInput => pure disk
    | .file path => addContent disk path) disk
  match request.out with
  | none => pure disk
  | some out => addPath disk out

/-- Makes the directories and writes the files that are new or different in `after`. -/
def carryOut (before after : Disk) : IO Unit :=
  (({ before with working := [] } : Disk).changes { after with working := [] }).forM fun (path, content) =>
    match content with
    | none => IO.FS.createDir ("/" ++ path)
    | some bytes => IO.FS.writeBinFile ("/" ++ path) ⟨bytes.toArray⟩

/-- An event as a line. -/
def eventLine (event : Event) : String :=
  " ".intercalate (event.message :: event.fields.map fun (name, value) => name ++ "=" ++ value) ++ "\n"

/-- A failure with its causes. -/
def failureText (failure : Failure) : String :=
  match failure.chain with
  | [] => ""
  | [message] => "Error: " ++ message ++ "\n"
  | message :: causes => "Error: " ++ message ++ "\n\nCaused by:\n    " ++ "\n    ".intercalate causes ++ "\n"

/-- How the program is called. -/
def usage : String :=
  "Usage: (go | rust) [-i|--input <INPUT>...] [-o|--out <OUT>] [--no-op]\n"

/-- Why a stream could not be read. -/
def systemError : IO.Error → SystemError
  | .inappropriateType .. => .isDirectory
  | .permissionDenied .. => .accessDenied
  | error => .other error.toString

/-- The standard input, which is read only if a request asks for it. -/
def standardInput (request : Request) : IO StandardInput := do
  if request.inputs.contains "-" then
    match ← (← IO.getStdin).readBinToEnd.toBaseIO with
    | .ok content => pure content.toList
    | .error error => pure (.error (systemError error))
  else pure (.ok [])

/-- Runs a request on the real disk and gives the status to end with. -/
def run (request : Request) : IO UInt32 := do
  let disk ← picture request
  let (events, outcome) := request.run disk (← standardInput request)
  let errors ← IO.getStderr
  errors.putStr (String.join ((Event.upTo .warn events).map eventLine))
  errors.putStr outcome.standardError
  (← IO.getStdout).putStr outcome.standardOutput
  carryOut disk outcome.disk
  match outcome.failure with
  | none => pure 0
  | some failure =>
    errors.putStr (failureText failure)
    pure 1

end SchemaTypes.Program

/-- Runs the program with its arguments. -/
def main (arguments : List String) : IO UInt32 := do
  match SchemaTypes.CommandLine.Request.ofArguments arguments with
  | .ok request => SchemaTypes.Program.run request
  | .error misuse =>
    let stream ← if misuse.exitCode = 0 then IO.getStdout else IO.getStderr
    stream.putStr SchemaTypes.Program.usage
    pure misuse.exitCode.toUInt32
