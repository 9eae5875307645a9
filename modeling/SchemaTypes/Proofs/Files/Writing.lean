import Mathlib.Data.List.DropRight
import SchemaTypes.Proofs.Files.Faces
import SchemaTypes.Proofs.Traced

/-!
# What writing changes

Making a directory and writing a file put one face at the location that their path leads to from then on, and
change no other one. Making the directories around a file changes nothing but what was missing: every new
directory is where one of the paths leads. Nothing here depends on how the disk looks, on names that lead up or
nowhere, or on whether the directories that were missing lie inside each other.
-/

namespace SchemaTypes.Files
set_option autoImplicit false

namespace Disk

variable {disk made after : Disk} {path : Path}

/-- `after` is `disk` with one face changed, where there was nothing, or a file that is a file again. -/
structure ChangedAt (disk after : Disk) (l : Location) (face : Face) : Prop where
  working : after.working = disk.working
  faces : ∀ m, after.face? m = if m = l then some face else disk.face? m
  replaces : ∀ before, disk.face? l = some before → ∃ old new, before = .file old ∧ face = .file new

theorem ChangedAt.grows {l : Location} {face : Face} (changed : disk.ChangedAt after l face) : disk.Grows after where
  working := changed.working
  kept m before found := by
    rw [changed.faces]
    by_cases here : m = l
    · subst here
      obtain ⟨old, new, rfl, rfl⟩ := changed.replaces before found
      exact .inr ⟨old, new, rfl, if_pos rfl⟩
    · exact .inl ((if_neg here).trans found)

/-- What a path names is the last of its pieces, without the empty ones at the end. -/
theorem named_of_target {t : Target} (found : disk.target path = .ok t) :
    ∃ location pieces, disk.start path = .ok (location, pieces) ∧
      disk.followAll location (pieces.rdropWhile (· == "")).dropLast = .ok t.directory ∧
      disk.face? t.directory = some .directory ∧ t.name = (pieces.rdropWhile (· == "")).getLast?.getD "" ∧
      t.slash = decide ((pieces.rdropWhile (· == "")).length < pieces.length) := by
  obtain ⟨⟨location, pieces⟩, begin, rest⟩ := bind_eq_ok.1 found
  obtain ⟨around, followed, settled⟩ := bind_eq_ok.1 rest
  refine ⟨location, pieces, begin, ?_⟩
  cases here : disk.root.at? around with
  | none => simp [here] at settled
  | some node =>
    cases node with
    | file | locked => simp [here] at settled
    | directory entries =>
      simp only [here] at settled
      cases settled
      exact ⟨followed, by simp [face?, here, Node.face], rfl, rfl⟩

/-- What a path names is looked up in a directory, and there are only slashes behind it. -/
theorem pieces_of_target {t : Target} (found : disk.target path = .ok t) (notDots : t.isDots = false) :
    ∃ location outer blanks, disk.start path = .ok (location, outer ++ t.name :: blanks) ∧
      (∀ piece ∈ blanks, piece = "") ∧ (t.slash = false → blanks = []) ∧
      disk.followAll location outer = .ok t.directory ∧ disk.face? t.directory = some .directory := by
  obtain ⟨location, pieces, begin, followed, around, name, slash⟩ := named_of_target found
  have split : pieces.rdropWhile (· == "") ++ pieces.rtakeWhile (· == "") = pieces :=
    List.rdropWhile_append_rtakeWhile
  have empty : ∀ piece ∈ pieces.rtakeWhile (· == ""), piece = "" := fun piece mem => by
    simpa using List.mem_rtakeWhile_imp mem
  generalize pieces.rdropWhile (· == "") = named, pieces.rtakeWhile (· == "") = blanks at *
  have names : t.name ≠ "" := by
    intro none
    simp [Target.isDots, none] at notDots
  have last : named.getLast? = some t.name := by
    cases last : named.getLast? with
    | none => exact absurd (by rw [name, last]; rfl) names
    | some piece => rw [name, last]; rfl
  have pieces_eq : named.dropLast ++ t.name :: blanks = pieces := by
    rw [← split, List.append_cons, List.dropLast_append_getLast? t.name last]
  refine ⟨location, named.dropLast, blanks, pieces_eq ▸ begin, empty, ?_, followed, around⟩
  intro noSlash
  rw [slash, decide_eq_false_iff_not, ← split, List.length_append] at noSlash
  exact List.length_eq_zero_iff.1 (by omega)

theorem followAll_blanks {l : Location} (directory : disk.face? l = some .directory) {blanks : List String}
    (empty : ∀ piece ∈ blanks, piece = "") : disk.followAll l blanks = .ok l := by
  induction blanks with
  | nil => rfl
  | cons piece more ih =>
    have here : disk.follow l piece = .ok l := by
      rw [follow_eq, directory, empty piece List.mem_cons_self]
      rfl
    rw [followAll, here]
    exact ih fun piece mem => empty piece (List.mem_cons_of_mem _ mem)

/-- **A bare node that is put at a target** is where the path leads from then on, and nothing else has changed. -/
theorem changedAt_put {t : Target} {new : Node} (found : disk.target path = .ok t) (notDots : t.isDots = false)
    (short : ¬ maxName < t.name.utf8ByteSize) (bare : new.Bare) (fits : t.slash = false ∨ new.face = .directory)
    (replaces : ∀ before, disk.face? t.location = some before →
      ∃ old content, before = .file old ∧ new.face = .file content) :
    disk.ChangedAt (disk.put t.location new) t.location new.face ∧
      (disk.put t.location new).locate path = .ok t.location := by
  obtain ⟨location, outer, blanks, begin, empty, noBlanks, followed, around⟩ := pieces_of_target found notDots
  obtain ⟨entries, here⟩ := face?_eq_directory around
  have bareBefore : ∀ old, entries.lookup t.name = some old → old.Bare := by
    intro old listed
    have there : disk.face? t.location = some old.face := by
      rw [face?, Target.location, Node.at?_snoc here, listed]
      rfl
    obtain ⟨content, _, file, -⟩ := replaces _ there
    rw [Node.face_eq_file.1 file]
    exact Node.bare_file content
  have changed : disk.ChangedAt (disk.put t.location new) t.location new.face :=
    ⟨rfl, Node.face_put here bareBefore bare, replaces⟩
  refine ⟨changed, ?_⟩
  have outerStays : (disk.put t.location new).followAll location outer = .ok t.directory :=
    changed.grows.followAll followed
  have inside : (disk.put t.location new).follow t.directory t.name = .ok t.location := by
    have apart : t.directory ≠ t.location := by simp [Target.location]
    have stays : (disk.put t.location new).face? t.directory = some .directory := by
      rw [changed.faces, if_neg apart, around]
    have there : ((disk.put t.location new).face? t.location).isSome = true := by
      rw [changed.faces, if_pos rfl]
      rfl
    simp only [Target.isDots, Bool.or_eq_false_iff, beq_eq_false_iff_ne] at notDots
    exact follow_into stays (not_or.2 notDots.1) notDots.2 short there
  have behind : (disk.put t.location new).followAll t.location blanks = .ok t.location := by
    rcases fits with noSlash | directory
    · rw [noBlanks noSlash]
      rfl
    · exact followAll_blanks ((changed.faces _).trans (by rw [if_pos rfl, directory])) empty
  refine bind_eq_ok.2 ⟨(location, outer ++ t.name :: blanks), begin, ?_⟩
  show (disk.put t.location new).followAll location (outer ++ t.name :: blanks) = .ok t.location
  rw [followAll_append, outerStays]
  show (disk.put t.location new).followAll t.directory (t.name :: blanks) = .ok t.location
  rw [followAll, inside]
  exact behind

/-- A directory that is made was not there before. -/
theorem makeDirectory_eq_ok (making : disk.makeDirectory path = .ok made) :
    ∃ l, disk.face? l = none ∧ disk.ChangedAt made l .directory ∧ made.locate path = .ok l := by
  obtain ⟨t, found, rest⟩ := bind_eq_ok.1 making
  split_ifs at rest with dots long there
  cases rest
  have nothing : disk.face? t.location = none := by
    simpa [face?] using there
  have fresh : ∀ before, disk.face? t.location = some before → ∃ old content, before = .file old ∧
      (Node.directory []).face = .file content := by
    intro before found
    cases nothing.symm.trans found
  obtain ⟨changed, leads⟩ :=
    changedAt_put found (eq_false_of_ne_true dots) long Node.bare_directory (.inr rfl) fresh
  exact ⟨t.location, nothing, changed, leads⟩

theorem isDirectory_of_makeDirectory (making : disk.makeDirectory path = .ok made) : made.isDirectory path = true := by
  obtain ⟨l, -, changed, leads⟩ := makeDirectory_eq_ok making
  obtain ⟨entries, here⟩ := face?_eq_directory ((changed.faces l).trans (if_pos rfl))
  simp [isDirectory, node?, leads, here, Node.isDirectory]

/-- A file that is written was nothing or a file before. -/
theorem write_eq_ok {content : Bytes} (writing : disk.write path content = .ok after) :
    ∃ l, disk.ChangedAt after l (.file content) ∧ after.locate path = .ok l := by
  obtain ⟨t, found, rest⟩ := bind_eq_ok.1 writing
  split_ifs at rest with directory long standing
  cases rest
  obtain ⟨noSlash, notDots⟩ := Bool.or_eq_false_iff.1 (eq_false_of_ne_true directory)
  refine ⟨t.location, changedAt_put found notDots long (Node.bare_file content) (.inl noSlash) ?_⟩
  intro before there
  obtain ⟨node, here, rfl⟩ := Option.map_eq_some_iff.1 there
  cases node with
  | file old => exact ⟨old, content, rfl, rfl⟩
  | directory | locked => exact absurd (by rw [here]; rfl) standing

/-- A file that was written is read back. -/
theorem read_of_write {content : Bytes} (writing : disk.write path content = .ok after) :
    after.read path = .ok content := by
  obtain ⟨l, changed, leads⟩ := write_eq_ok writing
  obtain ⟨node, here, file⟩ := Option.map_eq_some_iff.1 ((changed.faces l).trans (if_pos rfl))
  rw [Node.face_eq_file.1 file] at here
  refine bind_eq_ok.2 ⟨l, leads, ?_⟩
  rw [here]

/-- `after` is `disk` with directories made where some of the paths lead. -/
structure MadeAlong (disk after : Disk) (paths : List Path) : Prop where
  working : after.working = disk.working
  faces : ∀ l, after.face? l = disk.face? l ∨
    (disk.face? l = none ∧ after.face? l = some .directory ∧ ∃ path ∈ paths, after.locate path = .ok l)

namespace MadeAlong

variable {paths : List Path}

theorem refl (disk : Disk) (paths : List Path) : disk.MadeAlong disk paths :=
  ⟨rfl, fun _ => .inl rfl⟩

theorem cons (along : disk.MadeAlong after paths) (path : Path) : disk.MadeAlong after (path :: paths) where
  working := along.working
  faces l := by
    rcases along.faces l with same | ⟨nothing, new, other, mem, leads⟩
    · exact .inl same
    · exact .inr ⟨nothing, new, other, List.mem_cons_of_mem _ mem, leads⟩

/-- One more directory. -/
theorem make (along : disk.MadeAlong made paths) (making : made.makeDirectory path = .ok after) :
    disk.MadeAlong after (path :: paths) := by
  obtain ⟨l, nothing, changed, leads⟩ := makeDirectory_eq_ok making
  refine ⟨changed.working.trans along.working, fun m => ?_⟩
  by_cases here : m = l
  · subst here
    refine .inr ⟨?_, (changed.faces m).trans (if_pos rfl), path, List.mem_cons_self, leads⟩
    rcases along.faces m with same | ⟨before, -⟩
    · exact same.symm.trans nothing
    · exact before
  · rw [changed.faces, if_neg here]
    rcases along.faces m with same | ⟨before, new, other, mem, led⟩
    · exact .inl same
    · exact .inr ⟨before, new, other, List.mem_cons_of_mem _ mem, changed.grows.locate led⟩

end MadeAlong

/-- Whether the nearest of some directories around a path is there. The empty path is where relative ones start. -/
def Inside (disk : Disk) (outer : List Path) : Prop :=
  ∀ nearest ∈ outer.head?, nearest = "" ∨ disk.isDirectory nearest = true

/-- How making directories ends: the first one is there, or one that is no directory is refused, and not because the
directory around it is missing. -/
inductive Making (disk : Disk) (paths : List Path) : Disk × Except SystemError Unit → Prop where
  | done {made : Disk} (along : disk.MadeAlong made paths) (inside : made.Inside paths) :
      Making disk paths (made, .ok ())
  | refused {made : Disk} {inner outer : List Path} {path : Path} {e : SystemError} (along : disk.MadeAlong made paths)
      (split : paths = inner ++ path :: outer) (refusal : made.makeDirectory path = .error e)
      (missing : made.isDirectory path = false) (reason : e = .notFound → made.Inside outer) :
      Making disk paths (made, .error e)

variable {outer : List Path}

theorem inside_cons (there : disk.isDirectory path = true) : disk.Inside (path :: outer) := by
  intro nearest first
  cases first
  exact .inr there

/-- A directory that is not made may be there already. -/
theorem Making.of_error {e : SystemError} (along : disk.MadeAlong made (path :: outer))
    (refusal : made.makeDirectory path = .error e) (reason : e = .notFound → made.Inside outer) :
    disk.Making (path :: outer) (made, if made.isDirectory path then .ok () else .error e) := by
  cases there : made.isDirectory path with
  | true => exact .done along (inside_cons there)
  | false => exact .refused along (List.nil_append _).symm refusal there reason

theorem Making.of_ok (along : disk.MadeAlong made outer) (making : made.makeDirectory path = .ok after) :
    disk.Making (path :: outer) (after, .ok ()) :=
  .done (along.make making) (inside_cons (isDirectory_of_makeDirectory making))

/-- **Making directories makes what is missing along their paths**, however far it comes. -/
theorem making_makeDirectories (disk : Disk) (paths : List Path) :
    disk.Making paths (disk.makeDirectories paths) := by
  induction paths with
  | nil => exact .done (.refl disk []) nofun
  | cons path outer ih =>
    rw [makeDirectories]
    split
    · next empty => exact .done (.refl disk _) fun nearest first => .inl (by cases first; exact empty)
    · split
      · next making => exact .of_ok (.refl disk outer) making
      · generalize disk.makeDirectories outer = result at ih
        cases ih with
        | @refused made inner behind refused e along split refusal missing reason =>
          have longer : path :: outer = (path :: inner) ++ refused :: behind := congrArg (path :: ·) split
          exact .refused (along.cons path) longer refusal missing reason
        | done along inside =>
          simp only
          split
          · next making => exact .of_ok along making
          · next refusal => exact .of_error (along.cons path) refusal fun _ => inside
      · next other refusal => exact .of_error (.refl disk _) refusal fun same => absurd same other

end Disk

end SchemaTypes.Files
