import SchemaTypes.Files.Tree
import SchemaTypes.Proofs.Entries

/-!
# Faces of a disk

The face of a location is what stands there without what is inside it: a file with its content, a directory,
or a locked one. Paths are followed by faces alone (`Disk.follow_eq`), and a node without anything inside it
changes one face when it is put into a directory (`Node.face_put`). A disk grows if it gets new files and
directories and what was there stays of its kind; a path that led somewhere still leads there.
-/

namespace SchemaTypes.Files
set_option autoImplicit false

/-- What stands at a location, without what is inside it. -/
inductive Face where
  | file (content : Bytes)
  | directory
  | locked
deriving DecidableEq, Repr

namespace Node

/-- The face of a node. -/
def face : Node → Face
  | file content => .file content
  | directory _ => .directory
  | locked => .locked

theorem face_eq_file {node : Node} {content : Bytes} : node.face = .file content ↔ node = .file content := by
  cases node <;> simp [face]

/-- Whether there is nothing inside a node. -/
def Bare (node : Node) : Prop :=
  ∀ name more, node.at? (name :: more) = none

theorem bare_file (content : Bytes) : (file content).Bare :=
  fun _ _ => rfl

theorem bare_directory : (directory []).Bare :=
  fun _ _ => rfl

theorem at?_append (node : Node) (first second : Location) :
    node.at? (first ++ second) = (node.at? first).bind (·.at? second) := by
  induction first generalizing node with
  | nil => rfl
  | cons name more ih =>
    cases node with
    | directory entries =>
      simp only [List.cons_append, at?]
      cases entries.lookup name with
      | none => rfl
      | some child => exact ih child
    | file | locked => rfl

/-- What is in a directory is what its entries tell. -/
theorem at?_snoc {node : Node} {around : Location} {entries : List (String × Node)}
    (found : node.at? around = some (directory entries)) (name : String) :
    node.at? (around ++ [name]) = entries.lookup name := by
  rw [at?_append, found]
  show (entries.lookup name).bind (at? · []) = _
  cases entries.lookup name <;> rfl

/-- **Putting a bare node into a directory changes one face**, if there was nothing or a file before. -/
theorem face_put {node new : Node} {around : Location} {name : String} {entries : List (String × Node)}
    (found : node.at? around = some (directory entries)) (bareBefore : ∀ old, entries.lookup name = some old → old.Bare)
    (bare : new.Bare) (l : Location) :
    ((node.put new (around ++ [name])).at? l).map face =
      if l = around ++ [name] then some new.face else (node.at? l).map face := by
  induction around generalizing node l with
  | nil =>
    cases found
    cases l with
    | nil => rfl
    | cons step more =>
      simp only [List.nil_append, put, at?, lookup_assign, List.cons.injEq]
      by_cases here : step = name
      · subst here
        cases more with
        | nil => simp [at?]
        | cons below more =>
          rw [if_pos rfl, if_neg (by simp)]
          have outside : (entries.lookup step).bind (at? · (below :: more)) = none :=
            Option.bind_eq_none_iff.2 fun old before => bareBefore old before below more
          rw [outside, Option.bind_some, bare]
      · simp [here]
  | cons first others ih =>
    cases node with
    | file | locked => cases found
    | directory outer =>
      obtain ⟨child, listed, inside⟩ := Option.bind_eq_some_iff.1 (show (outer.lookup first).bind _ = _ from found)
      cases l with
      | nil => rfl
      | cons step more =>
        simp only [List.cons_append, put, at?, lookup_assign, listed, Option.getD_some, List.cons.injEq]
        by_cases here : step = first
        · subst here
          rw [if_pos rfl, Option.bind_some, ih inside more, listed]
          simp
        · simp [here]

end Node

namespace Disk

/-- The face of a location, if there is anything. -/
def face? (disk : Disk) (l : Location) : Option Face :=
  (disk.root.at? l).map Node.face

theorem face?_eq_directory {disk : Disk} {l : Location} (found : disk.face? l = some .directory) :
    ∃ entries, disk.root.at? l = some (.directory entries) := by
  obtain ⟨node, here, face⟩ := Option.map_eq_some_iff.1 found
  cases node with
  | directory entries => exact ⟨entries, here⟩
  | file | locked => cases face

theorem isSome_lookup {disk : Disk} {l : Location} {entries : List (String × Node)}
    (found : disk.root.at? l = some (.directory entries)) (name : String) :
    (entries.lookup name).isSome = (disk.face? (l ++ [name])).isSome := by
  rw [face?, Node.at?_snoc found, Option.isSome_map]

/-- **Paths are followed by faces.** -/
theorem follow_eq (disk : Disk) (l : Location) (piece : String) :
    disk.follow l piece =
      match disk.face? l with
      | none => .error .notFound
      | some (.file _) => .error .notDirectory
      | some .locked => if piece = "" then .ok l else .error .accessDenied
      | some .directory =>
        if piece = "" ∨ piece = "." then .ok l
        else if piece = ".." then .ok l.dropLast
        else if maxName < piece.utf8ByteSize then .error .nameTooLong
        else if (disk.face? (l ++ [piece])).isSome then .ok (l ++ [piece])
        else .error .notFound := by
  unfold follow
  cases found : disk.root.at? l with
  | none => simp [face?, found]
  | some node =>
    cases node with
    | file content => simp [face?, found, Node.face]
    | locked => simp [face?, found, Node.face]
    | directory entries =>
      have here : disk.face? l = some .directory := by simp [face?, found, Node.face]
      rw [here]
      simp only [isSome_lookup found]

/-- A name leads into a directory that has it. -/
theorem follow_into {disk : Disk} {l : Location} {name : String} (around : disk.face? l = some .directory)
    (notBlank : ¬ (name = "" ∨ name = ".")) (notUp : name ≠ "..") (short : ¬ maxName < name.utf8ByteSize)
    (there : (disk.face? (l ++ [name])).isSome = true) : disk.follow l name = .ok (l ++ [name]) := by
  rw [follow_eq, around]
  simp only
  rw [if_neg notBlank, if_neg notUp, if_neg short, if_pos there]

/-- New files and directories, while what was there stays of its kind. -/
structure Grows (disk after : Disk) : Prop where
  working : after.working = disk.working
  kept : ∀ l face, disk.face? l = some face →
    after.face? l = some face ∨ ∃ old new, face = .file old ∧ after.face? l = some (.file new)

variable {disk after : Disk}

theorem Grows.isSome (grows : disk.Grows after) {l : Location} (found : (disk.face? l).isSome = true) :
    (after.face? l).isSome = true := by
  obtain ⟨face, here⟩ := Option.isSome_iff_exists.1 found
  rcases grows.kept l face here with same | ⟨_, _, _, changed⟩
  · simp [same]
  · simp [changed]

theorem Grows.follow (grows : disk.Grows after) {l next : Location} {piece : String}
    (followed : disk.follow l piece = .ok next) : after.follow l piece = .ok next := by
  rw [follow_eq] at followed ⊢
  cases found : disk.face? l with
  | none =>
    rw [found] at followed
    cases followed
  | some face =>
    rw [found] at followed
    rcases grows.kept l face found with same | ⟨old, new, rfl, -⟩
    · rw [same]
      cases face with
      | file content => cases followed
      | locked => exact followed
      | directory =>
        simp only at followed ⊢
        split_ifs at followed with here up long there
        · rw [if_pos here, followed]
        · rw [if_neg here, if_pos up, followed]
        · rw [if_neg here, if_neg up, if_neg long, if_pos (grows.isSome there), followed]
    · cases followed

theorem followAll_append (disk : Disk) (l : Location) (first second : List String) :
    disk.followAll l (first ++ second) = disk.followAll l first >>= fun next => disk.followAll next second := by
  induction first generalizing l with
  | nil => rfl
  | cons piece more ih =>
    simp only [List.cons_append, followAll]
    cases disk.follow l piece with
    | error e => rfl
    | ok next => exact ih next

theorem Grows.followAll (grows : disk.Grows after) {l next : Location} {pieces : List String}
    (followed : disk.followAll l pieces = .ok next) : after.followAll l pieces = .ok next := by
  induction pieces generalizing l with
  | nil => exact followed
  | cons piece more ih =>
    rw [Disk.followAll] at followed ⊢
    cases step : disk.follow l piece with
    | error e =>
      rw [step] at followed
      cases followed
    | ok middle =>
      rw [step] at followed
      rw [grows.follow step]
      exact ih followed

theorem Grows.start (grows : disk.Grows after) (path : Path) : after.start path = disk.start path := by
  unfold Disk.start
  rw [grows.working]

/-- A path that leads somewhere leads there after the disk has grown. -/
theorem Grows.locate (grows : disk.Grows after) {path : Path} {l : Location} (found : disk.locate path = .ok l) :
    after.locate path = .ok l := by
  unfold Disk.locate at found ⊢
  rw [grows.start]
  cases begin : disk.start path with
  | error e =>
    rw [begin] at found
    cases found
  | ok place =>
    rw [begin] at found
    exact grows.followAll found

end Disk

end SchemaTypes.Files
