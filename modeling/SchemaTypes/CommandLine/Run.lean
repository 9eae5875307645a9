import SchemaTypes.CommandLine.Outline
import SchemaTypes.Dialect.Go
import SchemaTypes.Dialect.Rust
import SchemaTypes.Files.Expansion
import SchemaTypes.Sheet

/-!
# Running a request

All inputs are told first, then all are read, then all are generated, and only then something is written:
the texts in the order of their inputs with a line break between them. A run that fails before writing
leaves no output and no trace on the disk.
-/

namespace SchemaTypes.CommandLine
set_option autoImplicit false

open Files (Disk Path SystemError ExpansionError)

/-- An input to be read. -/
inductive Input where
  | standardInput
  | file (path : Path)
deriving DecidableEq, Repr

/-- The standard input: all that can be read from it, or why it cannot be read. -/
abbrev StandardInput := Except SystemError Bytes

/-- Bytes stand for an input that holds them and can be read. -/
instance : Coe Bytes StandardInput := ⟨.ok⟩

/-- An input that was read. -/
structure Source where
  label : String
  content : Bytes

/-- Why a run fails. -/
inductive Failure where
  | expansion (pattern : String) (error : ExpansionError)
  | noMatch (pattern : String)
  | readingStandardInput (error : SystemError)
  | reading (path : Path) (error : SystemError)
  | generating (label : String) (defect : Defect)
  | making (path : Path) (error : SystemError)
  | writing (path : Path) (error : SystemError)
deriving DecidableEq, Repr

/-- The wording of a failure and of its cause. -/
def Failure.chain : Failure → List String
  | .expansion pattern (.mistake m) => ["invalid glob pattern: " ++ pattern, m.message]
  | .expansion _ error => [error.message]
  | .noMatch pattern => ["glob pattern matched no files: " ++ pattern]
  | .readingStandardInput error => ["failed to read schema document from stdin", error.message]
  | .reading path error => ["failed to read source file " ++ path, error.message]
  | .generating label defect => ["failed to generate declarations for " ++ label, defect.message]
  | .making path error => ["failed to create " ++ path, error.message]
  | .writing path error => ["failed to write " ++ path, error.message]

/-- Whether a text is a pattern for paths and not a path. -/
def isPattern (text : String) : Bool :=
  text.toList.any fun c => c == '*' || c == '?' || c == '['

/-- The inputs that one text stands for: the standard input for a hyphen, the matches of a pattern in the
order of paths, and otherwise the path itself. -/
def inputsOf (expand : String → Except ExpansionError (List Path)) (text : String) :
    Except Failure (List Input) :=
  if text = "-" then .ok [.standardInput]
  else if isPattern text then
    match expand text with
    | .error error => .error (.expansion text error)
    | .ok [] => .error (.noMatch text)
    | .ok paths => .ok ((paths.mergeSort Path.le).map .file)
  else .ok [.file text]

/-- The inputs that some texts stand for, one after the other; the first failure ends it. -/
def resolveInputs (expand : String → Except ExpansionError (List Path)) :
    List String → Except Failure (List Input)
  | [] => .ok []
  | text :: more => do
    let first ← inputsOf expand text
    let others ← resolveInputs expand more
    .ok (first ++ others)

/-- The label of the standard input. -/
def standardInputLabel : String := "<stdin>"

/-- Reads inputs in turn. The first use of the standard input takes all of it. -/
def readSources (disk : Disk) (standardInput : StandardInput) : List Input → Traced Failure (List Source)
  | [] => pure []
  | .standardInput :: more => do
    let content ← Traced.ofExcept (standardInput.mapError .readingStandardInput)
    Traced.report (.loaded standardInputLabel content.length)
    let others ← readSources disk (.ok []) more
    pure (⟨standardInputLabel, content⟩ :: others)
  | .file path :: more => do
    let content ← Traced.ofExcept ((disk.read path).mapError (.reading path))
    Traced.report (.loaded path content.length)
    let others ← readSources disk standardInput more
    pure (⟨path, content⟩ :: others)

/-- The text for one source. -/
def generateSource (d : Dialect) (source : Source) : Traced Failure String :=
  let written := generate d source.content
  ⟨written.events, written.result.mapError (.generating source.label)⟩

/-- The texts for sources in turn. -/
def generateAll (d : Dialect) : List Source → Traced Failure (List String)
  | [] => pure []
  | source :: more => do
    let first ← generateSource d source
    let others ← generateAll d more
    pure (first :: others)

/-- The dialect of a command. -/
def Command.dialect : Command → Dialect
  | .go => Dialect.go
  | .rust => Dialect.rust

/-- The text a request asks for. -/
def Request.text (request : Request) (disk : Disk) (standardInput : StandardInput) : Traced Failure String := do
  let inputs ← Traced.ofExcept (resolveInputs disk.expand request.inputs)
  let sources ← readSources disk standardInput inputs
  let texts ← generateAll request.command.dialect sources
  pure ("\n".intercalate texts)

/-- How a run ended: why it failed if it did, what it wrote, and the disk it left. -/
structure Outcome where
  failure : Option Failure := none
  standardOutput : String := ""
  standardError : String := ""
  disk : Disk

/-- Writes a text to a file, for which missing directories are made. -/
def writeOut (disk : Disk) (out : Path) (text : String) : Outcome :=
  let parents := Path.parents out
  match disk.makeDirectories parents with
  | (made, .error error) => { failure := some (.making (parents.headD "") error), disk := made }
  | (made, .ok ()) =>
    match made.write out text.toUTF8.toList with
    | .error error => { failure := some (.writing out error), disk := made }
    | .ok written => { disk := written }

/-- Runs a request; one that is only to be shown is not carried out. -/
def Request.run (request : Request) (disk : Disk) (standardInput : StandardInput) : List Event × Outcome :=
  if request.noOp then ([], { standardError := request.shown, disk })
  else
    let generated := request.text disk standardInput
    (generated.events,
      match generated.result, request.out with
      | .error failure, _ => { failure := some failure, disk }
      | .ok text, none => { standardOutput := text, disk }
      | .ok text, some out => writeOut disk out text)

end SchemaTypes.CommandLine
