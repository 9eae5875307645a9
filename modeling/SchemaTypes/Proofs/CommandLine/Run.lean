import SchemaTypes.Proofs.CommandLine.Inputs
import SchemaTypes.Proofs.Files.Writing

/-!
# All or nothing

A run tells all inputs, then reads all of them, then generates all of them, each in turn; `Course` says how far it
comes. Only when all of this has succeeded is anything written, and then all texts together (`run_all_or_nothing`).
The disk is read before it is written, so that the file written may be one of those read.
-/

namespace SchemaTypes.CommandLine
set_option autoImplicit false

open Files (Disk Location Path SystemError)
open Traced (Turns inTurn turns_inTurn)

variable {disk : Disk} {standardInput : StandardInput} {texts : List String} {command : Command}

/-- What is left of the standard input behind some inputs: the first of them that uses it takes all of it. -/
def leftBehind (standardInput : StandardInput) (before : List Input) : StandardInput :=
  if .standardInput ∈ before then .ok [] else standardInput

/-- Reads one input, with what is left of the standard input. -/
def Input.load (disk : Disk) (left : StandardInput) : Input → Traced Failure Source
  | .standardInput =>
    match left with
    | .error error => ⟨[], .error (.readingStandardInput error)⟩
    | .ok content => ⟨[.loaded standardInputLabel content.length], .ok ⟨standardInputLabel, content⟩⟩
  | .file path =>
    match disk.read path with
    | .error error => ⟨[], .error (.reading path error)⟩
    | .ok content => ⟨[.loaded path content.length], .ok ⟨path, content⟩⟩

/-- The attempts to read inputs. -/
def readings (disk : Disk) (standardInput : StandardInput) (inputs : List Input) : List (Traced Failure Source) :=
  inputs.mapIdx fun i input => input.load disk (leftBehind standardInput (inputs.take i))

/-- The attempts to generate the texts for the contents of sources, in the dialect that the command is named for. A
failure names the source. -/
def generatings (command : Command) (sources : List Source) : List (Traced Failure String) :=
  sources.map fun source =>
    let written :=
      match command with
      | .go => generate Dialect.go source.content
      | .rust => generate Dialect.rust source.content
    written.mapError (.generating source.label)

/-- How far a run comes before anything is written: its events, and the texts for all inputs or the first failure. -/
inductive Course (command : Command) (disk : Disk) (standardInput : StandardInput) (texts : List String) :
    List Event → Except Failure (List String) → Prop where
  | resolving {before after : List String} {text : String} {failure : Failure}
      (split : texts = before ++ text :: after) (each : ∀ earlier ∈ before, ∃ inputs, StandsFor disk earlier inputs)
      (fails : FailsWith disk text failure) : Course command disk standardInput texts [] (.error failure)
  | reading {parts : List (List Input)} {loaded : List Event} {failure : Failure}
      (resolve : List.Forall₂ (StandsFor disk) texts parts)
      (read : Turns (readings disk standardInput parts.flatten) loaded (.error failure)) :
      Course command disk standardInput texts loaded (.error failure)
  | generating {parts : List (List Input)} {loaded written : List Event} {sources : List Source}
      {result : Except Failure (List String)} (resolve : List.Forall₂ (StandsFor disk) texts parts)
      (read : Turns (readings disk standardInput parts.flatten) loaded (.ok sources))
      (generate : Turns (generatings command sources) written result) :
      Course command disk standardInput texts (loaded ++ written) result

/-! ## The run in turns -/

theorem leftBehind_cons (standardInput : StandardInput) (input : Input) (before : List Input) :
    leftBehind standardInput (input :: before) = leftBehind (leftBehind standardInput [input]) before := by
  cases input <;> simp [leftBehind]

theorem readings_cons (disk : Disk) (standardInput : StandardInput) (input : Input) (more : List Input) :
    readings disk standardInput (input :: more) =
      input.load disk standardInput :: readings disk (leftBehind standardInput [input]) more := by
  rw [readings, List.mapIdx_cons]
  congr 1
  refine congrArg (List.mapIdx · more) ?_
  funext i later
  rw [List.take_succ_cons, leftBehind_cons]

theorem readSources_cons (disk : Disk) (standardInput : StandardInput) (input : Input) (more : List Input) :
    readSources disk standardInput (input :: more) = (do
      let first ← input.load disk standardInput
      let others ← readSources disk (leftBehind standardInput [input]) more
      pure (first :: others)) := by
  cases input with
  | standardInput => cases standardInput <;> rfl
  | file path =>
    rw [readSources, Input.load]
    cases disk.read path <;> rfl

theorem readSources_eq (disk : Disk) (standardInput : StandardInput) (inputs : List Input) :
    readSources disk standardInput inputs = inTurn (readings disk standardInput inputs) := by
  induction inputs generalizing standardInput with
  | nil => rfl
  | cons input more ih => rw [readings_cons, inTurn, ← ih, readSources_cons]

theorem generateAll_eq (command : Command) (sources : List Source) :
    generateAll command.dialect sources = inTurn (generatings command sources) := by
  induction sources with
  | nil => rfl
  | cons source more ih =>
    rw [generateAll, ih]
    cases command <;> rfl

/-- A run takes its course. -/
theorem Course.text_eq {request : Request} {events : List Event} {result : Except Failure (List String)}
    (course : Course request.command disk standardInput request.inputs events result) :
    request.text disk standardInput = ⟨events, result.map "\n".intercalate⟩ := by
  rw [Request.text]
  simp only [readSources_eq, generateAll_eq, Traced.bind_pure]
  cases course with
  | resolving split each fails =>
    rw [resolveInputs_fails_iff.2 ⟨_, _, _, split, each, fails⟩]
    rfl
  | reading resolve read =>
    rw [resolveInputs_eq_ok_iff.2 ⟨_, resolve, rfl⟩, Traced.bind_of_ok _ rfl, read.inTurn_eq]
    rfl
  | generating resolve read generate =>
    rw [resolveInputs_eq_ok_iff.2 ⟨_, resolve, rfl⟩, Traced.bind_of_ok _ rfl, read.inTurn_eq, Traced.bind_of_ok _ rfl,
      generate.inTurn_eq]
    rfl

/-- There is a course for every run. -/
theorem exists_course (command : Command) (disk : Disk) (standardInput : StandardInput) (texts : List String) :
    ∃ events result, Course command disk standardInput texts events result := by
  cases told : resolveInputs disk.expand texts with
  | error failure =>
    obtain ⟨before, text, after, split, each, fails⟩ := resolveInputs_fails_iff.1 told
    exact ⟨_, _, .resolving split each fails⟩
  | ok inputs =>
    obtain ⟨parts, resolve, rfl⟩ := resolveInputs_eq_ok_iff.1 told
    have read := turns_inTurn (readings disk standardInput parts.flatten)
    cases loaded : (inTurn (readings disk standardInput parts.flatten)).result with
    | error failure =>
      rw [loaded] at read
      exact ⟨_, _, .reading resolve read⟩
    | ok sources =>
      rw [loaded] at read
      exact ⟨_, _, .generating resolve read (turns_inTurn (generatings command sources))⟩

/-! ## What is written -/

/-- How writing a text to a file ends. On the disk there are new directories around the file, and the file if nothing
fails; everything else is as it was. A failure is the refusal of a directory, not because the one around it is
missing, or of the file in its directory. -/
inductive Delivery (disk : Disk) (out : Path) (text : String) : Outcome → Prop where
  | written {made after : Disk} {l : Location} (around : disk.MadeAlong made (Path.parents out))
      (inside : made.Inside (Path.parents out)) (changed : made.ChangedAt after l (.file text.toUTF8.toList))
      (leads : after.locate out = .ok l) (content : after.read out = .ok text.toUTF8.toList) :
      Delivery disk out text { disk := after }
  | notMade {made : Disk} {inner outer : List Path} {path : Path} {error : SystemError}
      (around : disk.MadeAlong made (Path.parents out)) (split : Path.parents out = inner ++ path :: outer)
      (refusal : made.makeDirectory path = .error error) (missing : made.isDirectory path = false)
      (reason : error = .notFound → made.Inside outer) :
      Delivery disk out text { failure := some (.making ((Path.parents out).headD "") error), disk := made }
  | notWritten {made : Disk} {error : SystemError} (around : disk.MadeAlong made (Path.parents out))
      (inside : made.Inside (Path.parents out)) (refusal : made.write out text.toUTF8.toList = .error error) :
      Delivery disk out text { failure := some (.writing out error), disk := made }

theorem delivery_writeOut (disk : Disk) (out : Path) (text : String) :
    Delivery disk out text (writeOut disk out text) := by
  have making := disk.making_makeDirectories (Path.parents out)
  rw [writeOut]
  generalize disk.makeDirectories (Path.parents out) = made at making
  cases making with
  | refused around split refusal missing reason => exact .notMade around split refusal missing reason
  | @done made around inside =>
    simp only
    cases writing : made.write out text.toUTF8.toList with
    | error error => exact .notWritten around inside writing
    | ok after =>
      obtain ⟨l, changed, leads⟩ := Disk.write_eq_ok writing
      exact .written around inside changed leads (Disk.read_of_write writing)

-- The directory around the file is missing.
example : (writeOut ⟨.directory [], []⟩ "a/b" "x").disk.face? ["a", "b"] = some (.file [120]) := by cbv

/-- **A run is all or nothing.** It has a course; if that ends with texts for all inputs, they are written with a line
break between them, to the standard output or to the file asked for and nowhere else. If it ends with a failure,
this is what is reported, nothing is written, and the disk is as it was. -/
theorem run_all_or_nothing (command : Command) (inputs : List String) (out : Option Path) (disk : Disk)
    (standardInput : StandardInput) :
    (∃ events result, Course command disk standardInput inputs events result) ∧
    (∀ events texts, Course command disk standardInput inputs events (.ok texts) →
      (Request.run ⟨command, inputs, out, false⟩ disk standardInput).1 = events ∧
      (out = none → (Request.run ⟨command, inputs, out, false⟩ disk standardInput).2 =
        { standardOutput := "\n".intercalate texts, disk }) ∧
      ∀ path, out = some path →
        Delivery disk path ("\n".intercalate texts) (Request.run ⟨command, inputs, out, false⟩ disk standardInput).2) ∧
    ∀ events failure, Course command disk standardInput inputs events (.error failure) →
      Request.run ⟨command, inputs, out, false⟩ disk standardInput = (events, { failure := some failure, disk }) := by
  refine ⟨exists_course _ disk standardInput inputs, fun events texts course => ?_, fun events failure course => ?_⟩
  · have text : Request.text ⟨command, inputs, out, false⟩ disk standardInput = _ := course.text_eq
    rw [Request.run, text]
    refine ⟨rfl, ?_, ?_⟩
    · rintro rfl
      rfl
    · rintro path rfl
      exact delivery_writeOut disk path _
  · have text : Request.text ⟨command, inputs, out, false⟩ disk standardInput = _ := course.text_eq
    rw [Request.run, text]
    rfl

-- Nothing is said of the first input, which is no document, if the second one cannot be read.
example : (Request.run ⟨.go, ["-", "missing"], some "out", false⟩ ⟨.directory [], []⟩ (.ok [])).2.failure =
    some (.reading "missing" .notFound) := by rfl

end SchemaTypes.CommandLine
