import SchemaTypes.CommandLine.Run
import SchemaTypes.Proofs.Files.Matches
import SchemaTypes.Proofs.Files.PathOrder

/-!
# What texts stand for

Each text of a request stands for inputs by itself: `StandsFor` says for which, and `FailsWith` why it stands for none.
The inputs of several texts are those of each of them, one after the other; no sorting and no comparison goes beyond
one text. If some of the texts stand for none, the first of these decides.
-/

namespace SchemaTypes.CommandLine
set_option autoImplicit false

open Files (Disk ExpansionError Match Path)
open Files.Wildcard (Mistake Valid)
open Files.Component (NotAfter)
open Files.Path (components)
open scoped List

/-- The inputs that a text stands for. A pattern stands for all of its matches, as often as they are found, in the
order of paths; matches at the same place stay in the order in which they are found. -/
inductive StandsFor (disk : Disk) : String → List Input → Prop where
  | standardInput : StandsFor disk "-" [.standardInput]
  | path {text : String} (apart : text ≠ "-") (plain : isPattern text = false) : StandsFor disk text [.file text]
  | pattern {text : String} {paths sorted : List Path} (wild : isPattern text = true) (valid : Valid text)
      (found : disk.matchesOf text = paths.map .ok) (matched : paths ≠ []) (all : sorted ~ paths)
      (ascending : sorted.Pairwise fun a b => NotAfter (components a) (components b))
      (stable : ∀ place, sorted.filter (components · = place) = paths.filter (components · = place)) :
      StandsFor disk text (sorted.map .file)

/-- Why a text stands for no inputs: it is a pattern that is not valid, or a match of it could not be told, or it has
no matches. -/
inductive FailsWith (disk : Disk) : String → Failure → Prop where
  | invalid {text : String} {m : Mistake} (wild : isPattern text = true) (wrong : Files.Wildcard.read text = .error m) :
      FailsWith disk text (.expansion text (.mistake m))
  | unlisted {text : String} {paths : List Path} {e : ExpansionError} {rest : List Match}
      (wild : isPattern text = true) (valid : Valid text)
      (found : disk.matchesOf text = paths.map .ok ++ .error e :: rest) : FailsWith disk text (.expansion text e)
  | noMatch {text : String} (wild : isPattern text = true) (valid : Valid text)
      (found : disk.matchesOf text = []) : FailsWith disk text (.noMatch text)

/-- Inputs that are both the standard input, or files whose paths have the same components. -/
inductive Input.SamePlace : Input → Input → Prop where
  | standardInput : SamePlace .standardInput .standardInput
  | file {path path' : Path} (same : components path = components path') : SamePlace (.file path) (.file path')

variable {disk : Disk} {expand expand' : String → Except ExpansionError (List Path)} {text : String}
  {inputs : List Input} {failure : Failure}

/-! ## One text -/

theorem ne_hyphen_of_isPattern (wild : isPattern text = true) : text ≠ "-" := by
  rintro rfl
  exact absurd wild (by decide)

theorem inputsOf_path (apart : text ≠ "-") (plain : isPattern text = false) :
    inputsOf expand text = .ok [.file text] := by
  simp [inputsOf, apart, plain]

theorem inputsOf_pattern_eq_ok (wild : isPattern text = true) :
    inputsOf expand text = .ok inputs ↔
      ∃ paths, expand text = .ok paths ∧ paths ≠ [] ∧ (paths.mergeSort Path.le).map .file = inputs := by
  rw [inputsOf, if_neg (ne_hyphen_of_isPattern wild), if_pos wild]
  cases expand text with
  | error e => simp
  | ok paths => cases paths <;> simp

theorem inputsOf_pattern_eq_error (wild : isPattern text = true) :
    inputsOf expand text = .error failure ↔
      (∃ e, expand text = .error e ∧ .expansion text e = failure) ∨ expand text = .ok [] ∧ .noMatch text = failure := by
  rw [inputsOf, if_neg (ne_hyphen_of_isPattern wild), if_pos wild]
  cases expand text with
  | error e => simp
  | ok paths => cases paths <;> simp

/-- **The inputs of one text are those it stands for.** -/
theorem inputsOf_eq_ok_iff : inputsOf disk.expand text = .ok inputs ↔ StandsFor disk text inputs := by
  constructor
  · intro told
    by_cases hyphen : text = "-"
    · subst hyphen
      cases told
      exact .standardInput
    · cases wild : isPattern text with
      | false =>
        rw [inputsOf_path hyphen wild] at told
        cases told
        exact .path hyphen wild
      | true =>
        obtain ⟨paths, expanded, matched, rfl⟩ := (inputsOf_pattern_eq_ok wild).1 told
        obtain ⟨valid, found⟩ := Disk.expand_eq_ok_iff.1 expanded
        exact .pattern wild valid found matched (List.mergeSort_perm paths Path.le) (Path.ascending_mergeSort paths)
          (Path.filter_mergeSort paths)
  · intro stands
    cases stands with
    | standardInput => rfl
    | path apart plain => exact inputsOf_path apart plain
    | @pattern _ paths sorted wild valid found matched all ascending stable =>
      have unique : paths.mergeSort Path.le = sorted :=
        Path.eq_of_ascending (Path.ascending_mergeSort paths) ascending fun place =>
          (Path.filter_mergeSort paths place).trans (stable place).symm
      exact (inputsOf_pattern_eq_ok wild).2 ⟨paths, Disk.expand_eq_ok_iff.2 ⟨valid, found⟩, matched, by rw [unique]⟩

/-- **The failure of one text says why it stands for no inputs.** -/
theorem inputsOf_eq_error_iff : inputsOf disk.expand text = .error failure ↔ FailsWith disk text failure := by
  constructor
  · intro failed
    by_cases hyphen : text = "-"
    · subst hyphen
      cases failed
    · cases wild : isPattern text with
      | false =>
        rw [inputsOf_path hyphen wild] at failed
        cases failed
      | true =>
        rcases (inputsOf_pattern_eq_error wild).1 failed with ⟨e, stopped, rfl⟩ | ⟨empty, rfl⟩
        · rcases Disk.expand_eq_error_iff.1 stopped with ⟨m, wrong, rfl⟩ | ⟨valid, paths, rest, found⟩
          · exact .invalid wild wrong
          · exact .unlisted wild valid found
        · obtain ⟨valid, found⟩ := Disk.expand_eq_ok_iff.1 empty
          exact .noMatch wild valid found
  · intro fails
    cases fails with
    | invalid wild wrong =>
      exact (inputsOf_pattern_eq_error wild).2 (.inl ⟨_, Disk.expand_eq_error_iff.2 (.inl ⟨_, wrong, rfl⟩), rfl⟩)
    | unlisted wild valid found =>
      exact (inputsOf_pattern_eq_error wild).2
        (.inl ⟨_, Disk.expand_eq_error_iff.2 (.inr ⟨valid, _, _, found⟩), rfl⟩)
    | noMatch wild valid found =>
      exact (inputsOf_pattern_eq_error wild).2 (.inr ⟨Disk.expand_eq_ok_iff.2 ⟨valid, found⟩, rfl⟩)

/-- Which texts stand for inputs. -/
theorem exists_inputsOf_iff :
    (∃ inputs, inputsOf disk.expand text = .ok inputs) ↔
      (isPattern text = true →
        Valid text ∧ (∀ m ∈ disk.matchesOf text, ∃ path, m = .ok path) ∧ disk.matchesOf text ≠ []) := by
  constructor
  · rintro ⟨inputs, told⟩ wild
    obtain ⟨paths, expanded, matched, -⟩ := (inputsOf_pattern_eq_ok wild).1 told
    obtain ⟨valid, found⟩ := Disk.expand_eq_ok_iff.1 expanded
    rw [found]
    refine ⟨valid, fun m mem => ?_, mt List.map_eq_nil_iff.1 matched⟩
    obtain ⟨path, -, rfl⟩ := List.mem_map.1 mem
    exact ⟨path, rfl⟩
  · intro conditions
    cases told : inputsOf disk.expand text with
    | ok inputs => exact ⟨inputs, rfl⟩
    | error failure =>
      cases inputsOf_eq_error_iff.1 told with
      | invalid wild wrong =>
        obtain ⟨⟨pieces, right⟩, -, -⟩ := conditions wild
        cases wrong.symm.trans right
      | @unlisted paths e rest wild _ found =>
        obtain ⟨-, each, -⟩ := conditions wild
        have stopped : .error e ∈ disk.matchesOf text := by simp [found]
        obtain ⟨path, impossible⟩ := each _ stopped
        cases impossible
      | noMatch wild _ found => exact absurd found (conditions wild).2.2

/-- The places of inputs do not show in which order a pattern is expanded. -/
theorem inputsOf_alike (same : Alike List.Perm (expand text) (expand' text)) :
    Alike (List.Forall₂ Input.SamePlace) (inputsOf expand text) (inputsOf expand' text) := by
  by_cases hyphen : text = "-"
  · subst hyphen
    exact .ok (.cons .standardInput .nil)
  · cases wild : isPattern text with
    | false =>
      rw [inputsOf_path hyphen wild, inputsOf_path hyphen wild]
      exact .ok (.cons (.file rfl) .nil)
    | true =>
      rw [inputsOf, inputsOf, if_neg hyphen, if_pos wild, if_neg hyphen, if_pos wild]
      generalize expand text = one, expand' text = other at same
      cases same with
      | error e => exact .error _
      | @ok paths paths' moved =>
        cases paths with
        | nil =>
          cases moved.nil_eq
          exact .error _
        | cons path more =>
          cases paths' with
          | nil => cases moved.eq_nil
          | cons path' more' =>
            have places := Path.places_mergeSort moved
            rw [← List.forall₂_eq_eq_eq, List.forall₂_map_left_iff, List.forall₂_map_right_iff] at places
            refine .ok ?_
            rw [List.forall₂_map_left_iff, List.forall₂_map_right_iff]
            exact places.imp fun _ _ => .file

/-! ## Texts in turn -/

theorem resolveInputs_eq_mapM (expand : String → Except ExpansionError (List Path)) (texts : List String) :
    resolveInputs expand texts = ((texts.map (inputsOf expand)).mapM id).map List.flatten := by
  induction texts with
  | nil => rfl
  | cons text more ih =>
    rw [resolveInputs, ih, List.map_cons, List.mapM_cons, id]
    cases inputsOf expand text with
    | error failure => rfl
    | ok first => cases (more.map (inputsOf expand)).mapM id <;> rfl

/-- **Texts stand for the inputs of each of them, one after the other.** -/
theorem resolveInputs_eq_ok_iff {texts : List String} :
    resolveInputs disk.expand texts = .ok inputs ↔
      ∃ parts, List.Forall₂ (StandsFor disk) texts parts ∧ parts.flatten = inputs := by
  rw [resolveInputs_eq_mapM, map_eq_ok]
  refine exists_congr fun parts => and_congr_left fun _ => ?_
  rw [mapM_id_eq_ok, ← List.forall₂_eq_eq_eq, List.forall₂_map_left_iff, List.forall₂_map_right_iff]
  simp only [inputsOf_eq_ok_iff]

theorem exists_resolveInputs_iff {texts : List String} :
    (∃ inputs, resolveInputs expand texts = .ok inputs) ↔ ∀ text ∈ texts, ∃ part, inputsOf expand text = .ok part := by
  induction texts with
  | nil => simp [resolveInputs]
  | cons text more ih =>
    rw [List.forall_mem_cons, ← ih, resolveInputs]
    simp [bind_eq_ok]

theorem resolveInputs_singleton (expand : String → Except ExpansionError (List Path)) (text : String) :
    resolveInputs expand [text] = inputsOf expand text := by
  rw [resolveInputs]
  cases inputsOf expand text <;> simp [resolveInputs, bind, Except.bind]

theorem resolveInputs_append (expand : String → Except ExpansionError (List Path)) (texts more : List String) :
    resolveInputs expand (texts ++ more) = (do
      let first ← resolveInputs expand texts
      let others ← resolveInputs expand more
      .ok (first ++ others)) := by
  induction texts with
  | nil =>
    rw [List.nil_append, resolveInputs]
    cases resolveInputs expand more <;> rfl
  | cons text rest ih =>
    rw [List.cons_append, resolveInputs, ih, resolveInputs]
    cases inputsOf expand text with
    | error failure => rfl
    | ok first =>
      cases resolveInputs expand rest with
      | error failure => rfl
      | ok between =>
        cases resolveInputs expand more with
        | error failure => rfl
        | ok others => exact congrArg Except.ok (List.append_assoc first between others).symm

/-- **Texts fail with the first of them that fails.** -/
theorem resolveInputs_eq_error_iff {texts : List String} :
    resolveInputs expand texts = .error failure ↔
      ∃ before text after, texts = before ++ text :: after ∧
        (∀ earlier ∈ before, ∃ part, inputsOf expand earlier = .ok part) ∧ inputsOf expand text = .error failure := by
  constructor
  · intro failed
    rw [resolveInputs_eq_mapM, map_eq_error, mapM_id_eq_error] at failed
    obtain ⟨parts, rest, each⟩ := failed
    obtain ⟨before, behind, rfl, told, stopped⟩ := List.map_eq_append_iff.1 each
    obtain ⟨text, after, rfl, fails, -⟩ := List.map_eq_cons_iff.1 stopped
    refine ⟨before, text, after, rfl, fun earlier mem => ?_, fails⟩
    have inside : inputsOf expand earlier ∈ parts.map Except.ok := told ▸ List.mem_map_of_mem mem
    obtain ⟨part, -, same⟩ := List.mem_map.1 inside
    exact ⟨part, same.symm⟩
  · rintro ⟨before, text, after, rfl, each, fails⟩
    obtain ⟨inputs, told⟩ := exists_resolveInputs_iff.2 each
    rw [resolveInputs_append, told, resolveInputs, fails]
    rfl

theorem resolveInputs_fails_iff {texts : List String} :
    resolveInputs disk.expand texts = .error failure ↔
      ∃ before text after, texts = before ++ text :: after ∧
        (∀ earlier ∈ before, ∃ part, StandsFor disk earlier part) ∧ FailsWith disk text failure := by
  simp only [resolveInputs_eq_error_iff, inputsOf_eq_ok_iff, inputsOf_eq_error_iff]

/-- The places of inputs do not show in which order the patterns are expanded. -/
theorem resolveInputs_alike (same : ∀ text, Alike List.Perm (expand text) (expand' text)) (texts : List String) :
    Alike (List.Forall₂ Input.SamePlace) (resolveInputs expand texts) (resolveInputs expand' texts) := by
  induction texts with
  | nil => exact .ok .nil
  | cons text more ih =>
    rw [resolveInputs, resolveInputs]
    have first := inputsOf_alike (same text)
    generalize inputsOf expand text = here, inputsOf expand' text = here' at first
    generalize resolveInputs expand more = behind, resolveInputs expand' more = behind' at ih
    cases first with
    | error failure => exact .error failure
    | ok firsts =>
      cases ih with
      | error failure => exact .error failure
      | ok others => exact .ok (List.rel_append firsts others)

/-- **Texts stand for inputs one after the other.** They do so if each pattern among them is valid and has matches,
none of which could not be told. The inputs are then those of each text in turn, and otherwise the failure is that of
the first text that fails, as it fails alone. So the inputs of more texts follow those of the first ones, and the order
in which a pattern is expanded does not show in the places of the inputs. -/
theorem inputs_one_after_the_other (disk : Disk) (texts : List String) :
    ((∃ inputs, resolveInputs disk.expand texts = .ok inputs) ↔
      ∀ text ∈ texts, isPattern text = true →
        Valid text ∧ (∀ m ∈ disk.matchesOf text, ∃ path, m = .ok path) ∧ disk.matchesOf text ≠ []) ∧
    (∀ inputs, resolveInputs disk.expand texts = .ok inputs ↔
      ∃ parts, List.Forall₂ (StandsFor disk) texts parts ∧ parts.flatten = inputs) ∧
    (∀ failure, resolveInputs disk.expand texts = .error failure ↔
      ∃ before text after, texts = before ++ text :: after ∧
        (∀ earlier ∈ before, ∃ inputs, resolveInputs disk.expand [earlier] = .ok inputs) ∧
        resolveInputs disk.expand [text] = .error failure ∧ FailsWith disk text failure) ∧
    (∀ more, resolveInputs disk.expand (texts ++ more) = (do
      let first ← resolveInputs disk.expand texts
      let others ← resolveInputs disk.expand more
      .ok (first ++ others))) ∧
    ∀ expand, (∀ text, Alike List.Perm (disk.expand text) (expand text)) →
      Alike (List.Forall₂ Input.SamePlace) (resolveInputs disk.expand texts) (resolveInputs expand texts) := by
  refine ⟨?_, fun inputs => resolveInputs_eq_ok_iff, fun failure => ?_, resolveInputs_append disk.expand texts,
    fun expand same => resolveInputs_alike same texts⟩
  · simp only [exists_resolveInputs_iff, exists_inputsOf_iff]
  · simp only [resolveInputs_eq_error_iff, resolveInputs_singleton, ← inputsOf_eq_error_iff, and_self]

-- The second pattern matches the first input once more, and behind the other one.
example : resolveInputs (Disk.expand ⟨.directory [("b", .directory []), ("a", .directory [])], []⟩) ["b*", "*"] =
    .ok [.file "b", .file "a", .file "b"] := by cbv

end SchemaTypes.CommandLine
