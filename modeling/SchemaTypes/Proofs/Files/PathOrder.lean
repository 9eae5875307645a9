import Mathlib.Data.List.Lex
import Mathlib.Data.List.Perm.Basic
import SchemaTypes.Files.Path
import SchemaTypes.Proofs.Text.ByteOrder

/-!
# The order of paths

Paths are in the order of their components, and the first components that differ decide. Paths with the same
components are at the same place, however they are spelled. Sorting puts paths in this order and leaves those at the
same place as they were, so that apart from their spelling it does not show in which order they came.
-/

namespace SchemaTypes.Files
set_option autoImplicit false

open scoped List

namespace Component

/-- The order of components: the root, the point, two points, and then the names, by their bytes. -/
inductive Before : Component → Component → Prop where
  | rootCurrent : Before root current
  | rootParent : Before root parent
  | rootName (text : String) : Before root (name text)
  | currentParent : Before current parent
  | currentName (text : String) : Before current (name text)
  | parentName (text : String) : Before parent (name text)
  | names {a b : String} (bytes : Utf8.Before a b) : Before (name a) (name b)

theorem Before.of_precedes : ∀ {a b : Component}, a.precedes b = true → Before a b
  | root, current, _ => .rootCurrent
  | root, parent, _ => .rootParent
  | root, name text, _ => .rootName text
  | current, parent, _ => .currentParent
  | current, name text, _ => .currentName text
  | parent, name text, _ => .parentName text
  | name _, name _, less => .names (Utf8.before_iff_lt.2 (of_decide_eq_true less))

theorem before_iff_precedes {a b : Component} : Before a b ↔ a.precedes b = true := by
  refine ⟨fun before => ?_, Before.of_precedes⟩
  cases before with
  | names bytes => exact decide_eq_true (Utf8.before_iff_lt.1 bytes)
  | _ => rfl

theorem Before.trans {a b c : Component} (first : Before a b) (second : Before b c) : Before a c := by
  cases first with
  | names bytes =>
    cases second with
    | names bytes' =>
      exact .names (Utf8.before_iff_lt.2 (String.lt_trans (Utf8.before_iff_lt.1 bytes) (Utf8.before_iff_lt.1 bytes')))
  | _ => cases second <;> constructor

instance : Std.Asymm Before where
  asymm a b first second := by
    cases first with
    | names bytes =>
      cases second with
      | names bytes' => exact String.lt_asymm (Utf8.before_iff_lt.1 bytes) (Utf8.before_iff_lt.1 bytes')
    | _ => cases second

/-- Components of which neither precedes the other are one. -/
theorem eq_of_precedes {a b : Component} (notBefore : a.precedes b = false) (notBehind : b.precedes a = false) :
    a = b := by
  cases a <;> cases b
  case name.name a b =>
    have least : b ≤ a := of_decide_eq_false notBefore
    have greatest : a ≤ b := of_decide_eq_false notBehind
    rw [String.le_antisymm greatest least]
  all_goals simp_all [precedes, precedes.rank]

instance : Std.Trichotomous Before where
  trichotomous a b notBefore notBehind := by
    rw [before_iff_precedes] at notBefore notBehind
    exact eq_of_precedes (Bool.eq_false_iff.2 notBefore) (Bool.eq_false_iff.2 notBehind)

/-- Components stand at the same place as others, or in front of them: the first ones that differ decide, and
otherwise those that end first. -/
def NotAfter (as bs : List Component) : Prop :=
  as = bs ∨ List.Lex Before as bs

theorem NotAfter.trans {as bs cs : List Component} (first : NotAfter as bs) (second : NotAfter bs cs) :
    NotAfter as cs := by
  rcases first with rfl | first
  · exact second
  · rcases second with rfl | second
    · exact .inr first
    · exact .inr (List.lex_trans Before.trans first second)

theorem NotAfter.antisymm {as bs : List Component} (first : NotAfter as bs) (second : NotAfter bs as) : as = bs := by
  rcases first with same | first
  · exact same
  · rcases second with same | second
    · exact same.symm
    · exact absurd second (Std.Asymm.asymm as bs first)

theorem notAfter_total (as bs : List Component) : NotAfter as bs ∨ NotAfter bs as := by
  by_cases before : List.Lex Before as bs
  · exact .inl (.inr before)
  · by_cases behind : List.Lex Before bs as
    · exact .inr (.inr behind)
    · exact .inl (.inl (Std.Trichotomous.trichotomous as bs before behind))

end Component

namespace Path

open Component (NotAfter)

theorem componentsLe_iff {as bs : List Component} : componentsLe as bs = true ↔ NotAfter as bs := by
  induction as generalizing bs with
  | nil =>
    cases bs with
    | nil => exact ⟨fun _ => .inl rfl, fun _ => rfl⟩
    | cons => exact ⟨fun _ => .inr .nil, fun _ => rfl⟩
  | cons a as ih =>
    cases bs with
    | nil =>
      refine ⟨nofun, ?_⟩
      rintro (same | before)
      · cases same
      · cases before
    | cons b bs =>
      rw [componentsLe]
      split
      · next same =>
        subst same
        rw [ih, NotAfter, NotAfter, List.cons_eq_cons, List.lex_cons_iff]
        simp only [true_and]
      · next apart =>
        rw [← Component.before_iff_precedes]
        refine ⟨fun before => .inr (.rel before), ?_⟩
        rintro (same | before)
        · exact absurd (List.cons.inj same).1 apart
        · cases before with
          | rel before => exact before
          | cons => exact absurd rfl apart

/-- **The order of paths is that of their components.** -/
theorem le_iff {a b : Path} : le a b = true ↔ NotAfter (components a) (components b) :=
  componentsLe_iff

theorem le_trans (a b c : Path) (first : le a b = true) (second : le b c = true) : le a c = true :=
  le_iff.2 ((le_iff.1 first).trans (le_iff.1 second))

theorem le_total (a b : Path) : (le a b || le b a) = true := by
  rw [Bool.or_eq_true, le_iff, le_iff]
  exact Component.notAfter_total _ _

/-- Sorted paths ascend. -/
theorem ascending_mergeSort (paths : List Path) :
    (paths.mergeSort le).Pairwise fun a b => NotAfter (components a) (components b) :=
  (List.pairwise_mergeSort le_trans le_total paths).imp le_iff.1

/-- Sorted paths at the same place are in the order in which they were. -/
theorem filter_mergeSort (paths : List Path) (place : List Component) :
    (paths.mergeSort le).filter (components · = place) = paths.filter (components · = place) := by
  have level : (paths.filter (components · = place)).Pairwise fun a b => le a b = true := by
    refine List.pairwise_of_forall_mem_list fun a memA b memB => le_iff.2 (.inl ?_)
    have here := (List.mem_filter.1 memA).2
    have there := (List.mem_filter.1 memB).2
    rw [of_decide_eq_true here, of_decide_eq_true there]
  have kept : paths.filter (components · = place) <+ paths.mergeSort le :=
    List.sublist_mergeSort le_trans le_total level List.filter_sublist
  have inside := kept.filter (components · = place)
  rw [List.filter_filter] at inside
  simp only [Bool.and_self] at inside
  exact (inside.eq_of_length ((List.mergeSort_perm paths le).filter _).length_eq.symm).symm

theorem notAfter_of_mem {path path' : Path} {more : List Path}
    (ascending : (path :: more).Pairwise fun a b => NotAfter (components a) (components b))
    (mem : path' ∈ path :: more) : NotAfter (components path) (components path') := by
  rcases List.mem_cons.1 mem with rfl | behind
  · exact .inl rfl
  · exact List.rel_of_pairwise_cons ascending behind

theorem mem_iff_of_filter {paths paths' : List Path}
    (same : ∀ place, paths.filter (components · = place) = paths'.filter (components · = place)) (path : Path) :
    path ∈ paths ↔ path ∈ paths' := by
  have alike : path ∈ paths.filter (components · = components path) ↔
      path ∈ paths'.filter (components · = components path) := by rw [same]
  simpa [List.mem_filter] using alike

/-- Paths that ascend are determined by those at each place. -/
theorem eq_of_ascending {paths paths' : List Path}
    (ascending : paths.Pairwise fun a b => NotAfter (components a) (components b))
    (ascending' : paths'.Pairwise fun a b => NotAfter (components a) (components b))
    (same : ∀ place, paths.filter (components · = place) = paths'.filter (components · = place)) :
    paths = paths' := by
  induction paths generalizing paths' with
  | nil =>
    cases paths' with
    | nil => rfl
    | cons path' => simpa using same (components path')
  | cons path more ih =>
    cases paths' with
    | nil => simpa using same (components path)
    | cons path' more' =>
      -- Each of the first paths is somewhere in the other list, so that neither place is after the other.
      have here : path' ∈ path :: more := (mem_iff_of_filter same path').2 List.mem_cons_self
      have there : path ∈ path' :: more' := (mem_iff_of_filter same path).1 List.mem_cons_self
      have level : components path = components path' :=
        (notAfter_of_mem ascending here).antisymm (notAfter_of_mem ascending' there)
      have first := same (components path)
      rw [List.filter_cons_of_pos (by simp), List.filter_cons_of_pos (by simp [level])] at first
      obtain ⟨rfl, -⟩ := List.cons.inj first
      refine congrArg (path :: ·) (ih ascending.of_cons ascending'.of_cons fun place => ?_)
      have both := same place
      rw [List.filter_cons, List.filter_cons] at both
      split at both
      · exact (List.cons.inj both).2
      · exact both

/-- The places of sorted paths do not show in which order the paths came. -/
theorem places_mergeSort {paths paths' : List Path} (moved : paths ~ paths') :
    (paths.mergeSort le).map components = (paths'.mergeSort le).map components := by
  have same : paths.mergeSort le ~ paths'.mergeSort le :=
    (List.mergeSort_perm paths le).trans (moved.trans (List.mergeSort_perm paths' le).symm)
  refine List.Perm.eq_of_pairwise (fun _ _ _ _ => NotAfter.antisymm) ?_ ?_ (same.map components)
  · exact List.pairwise_map.2 (ascending_mergeSort paths)
  · exact List.pairwise_map.2 (ascending_mergeSort paths')

-- By their texts, these two stand the other way round.
example : le "a/1" "a-b/1" = true ∧ "a-b/1" < "a/1" := by decide +kernel

end Path

end SchemaTypes.Files
