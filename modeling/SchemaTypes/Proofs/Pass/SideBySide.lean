import SchemaTypes.Proofs.Pass.Steps
import SchemaTypes.Proofs.SideBySide

/-!
# Two passes side by side

Two agendas correspond if they have seen the same names and their pending schemas correspond one by one. Each
round of the loop takes corresponding agendas to corresponding ones, with the same declaration on the way, or
ends both passes with the same defect. So the passes declare the same and end alike, whether they start from
roots that correspond in turn or from the same roots in another order.
-/

namespace SchemaTypes
set_option autoImplicit false

open scoped List

namespace Agenda

/-- Agendas that have seen the same names and have schemas pending that `R` relates. -/
structure Corresponds (R : Schema → Schema → Prop) (agenda other : Agenda) : Prop where
  pending : List.Forall₂ R agenda.pending other.pending
  seen : ∀ name, name ∈ agenda.seen ↔ name ∈ other.seen

variable {R : Schema → Schema → Prop} {agenda other : Agenda}

theorem corresponds_empty : Corresponds R Agenda.empty Agenda.empty :=
  ⟨.nil, fun _ => Iff.rfl⟩

theorem forall₂_insertById (ids : ∀ {s t : Schema}, R s t → s.id = t.id) {s t : Schema}
    {schemas others : List Schema} (first : R s t) (rest : List.Forall₂ R schemas others) :
    List.Forall₂ R (insertById s schemas) (insertById t others) := by
  induction rest with
  | nil => exact .cons first .nil
  | cons second more ih =>
    simp only [insertById, ← ids first, ← ids second]
    split
    · exact .cons second ih
    · exact .cons first (.cons second more)

/-- Corresponding schemas are accepted by both agendas or by none. -/
theorem Corresponds.enqueue (both : agenda.Corresponds R other) (ids : ∀ {s t : Schema}, R s t → s.id = t.id)
    {s t : Schema} (alike : R s t) : Alike (Corresponds R) (agenda.enqueue s) (other.enqueue t) := by
  have sameId := ids alike
  unfold Agenda.enqueue
  by_cases known : s.id ∈ agenda.seen
  · have known' : t.id ∈ other.seen := by rwa [← sameId, ← both.seen]
    rw [dif_pos known, dif_pos known', sameId]
    exact .error _
  · have new' : t.id ∉ other.seen := by rwa [← sameId, ← both.seen]
    rw [dif_neg known, dif_neg new']
    refine .ok ⟨forall₂_insertById ids alike both.pending, ?_⟩
    intro name
    rw [List.mem_cons, List.mem_cons, both.seen, sameId]

theorem Corresponds.enqueueAll (both : agenda.Corresponds R other)
    (ids : ∀ {s t : Schema}, R s t → s.id = t.id) {schemas others : List Schema}
    (alike : List.Forall₂ R schemas others) :
    (agenda.enqueueAll schemas).2.result = (other.enqueueAll others).2.result ∧
      (agenda.enqueueAll schemas).1.Corresponds R (other.enqueueAll others).1 := by
  induction alike generalizing agenda other with
  | nil => exact ⟨rfl, both⟩
  | cons first _ ih =>
    have outcome := both.enqueue ids first
    simp only [Agenda.enqueueAll]
    generalize agenda.enqueue _ = here, other.enqueue _ = there at outcome ⊢
    cases outcome with
    | error defect => exact ⟨rfl, both⟩
    | ok accepted => exact ih accepted

/-- What is taken from corresponding agendas corresponds, and so does what stays. -/
theorem Corresponds.popMin (both : agenda.Corresponds R other) {s : Schema} {rest : Agenda}
    (taken : agenda.popMin = some (s, rest)) :
    ∃ t rest', other.popMin = some (t, rest') ∧ R s t ∧ rest.Corresponds R rest' := by
  obtain ⟨pending, seen⟩ := popMin_eq_some taken
  have alike := both.pending
  rw [pending] at alike
  cases taken' : other.popMin with
  | none =>
    rw [popMin_eq_none.1 taken'] at alike
    cases alike
  | some next =>
    obtain ⟨t, rest'⟩ := next
    obtain ⟨pending', seen'⟩ := popMin_eq_some taken'
    rw [pending'] at alike
    obtain ⟨first, others⟩ := List.forall₂_cons.1 alike
    refine ⟨t, rest', rfl, first, others, ?_⟩
    intro name
    rw [seen, seen', both.seen]

/-- **Corresponding agendas are drained alike**: with the same declarations, to the same end. -/
theorem Corresponds.drain (both : agenda.Corresponds R other) (corresponds : Correspondence R) :
    agenda.drain.declarations = other.drain.declarations ∧ agenda.drain.ending = other.drain.ending := by
  fun_induction Agenda.drain agenda generalizing other with
  | case1 agenda done =>
    have nothing := both.pending
    rw [popMin_eq_none.1 done] at nothing
    have done' := popMin_eq_none.2 (List.forall₂_nil_left_iff.1 nothing)
    simp only [drain_eq other, done', and_self]
  | case2 agenda s rest taken defect failed =>
    obtain ⟨t, rest', taken', alike, -⟩ := both.popMin taken
    have failed' := (corresponds.declare alike).eq_error failed
    simp only [drain_eq other, taken', failed', and_self]
  | case3 agenda s rest taken declaration hoisted declared _ queued events defect =>
    rename_i refused
    obtain ⟨t, rest', taken', alike, after⟩ := both.popMin taken
    obtain ⟨⟨_, hoisted'⟩, declared', rfl, lifted⟩ := (corresponds.declare alike).eq_ok declared
    obtain ⟨same, -⟩ := after.enqueueAll corresponds.id_eq lifted
    have refused' : (rest'.enqueueAll hoisted').2.result = .error defect := same ▸ refused
    simp only [drain_eq other, taken', declared', refused', and_self]
  | case4 agenda s rest taken declaration hoisted declared _ queued events accepted later =>
    rename_i ih
    obtain ⟨t, rest', taken', alike, after⟩ := both.popMin taken
    obtain ⟨⟨_, hoisted'⟩, declared', rfl, lifted⟩ := (corresponds.declare alike).eq_ok declared
    obtain ⟨same, next⟩ := after.enqueueAll corresponds.id_eq lifted
    have accepted' : (rest'.enqueueAll hoisted').2.result = .ok () := same ▸ accepted
    obtain ⟨declarations, ending⟩ := ih next
    simp only [drain_eq other, taken', declared', accepted']
    exact ⟨congrArg (declaration :: ·) declarations, ending⟩

/-- Agendas with the same schemas have them in the same order. -/
theorem pending_eq_of_perm (same : agenda.pending ~ other.pending) : agenda.pending = other.pending := by
  refine List.Perm.eq_of_pairwise ?_ agenda.ascending other.ascending same
  intro s t _ _ below above
  exact absurd above (String.lt_asymm below)

end Agenda

namespace Document

variable {doc other : Document}

/-- **Passes from corresponding roots declare the same**, and end alike. -/
theorem pass_of_corresponding {R : Schema → Schema → Prop} (corresponds : Correspondence R)
    (alike : List.Forall₂ R doc.roots other.roots) :
    doc.pass.declarations = other.pass.declarations ∧ doc.pass.ending = other.pass.ending := by
  obtain ⟨same, both⟩ := Agenda.corresponds_empty.enqueueAll corresponds.id_eq alike
  cases seeding : (Agenda.empty.enqueueAll doc.roots).2.result with
  | error defect =>
    obtain ⟨ending, made⟩ := pass_of_refused seeding
    obtain ⟨ending', made'⟩ := pass_of_refused (same ▸ seeding)
    rw [made, made', ending, ending']
    exact ⟨rfl, rfl⟩
  | ok =>
    obtain ⟨ending, made⟩ := pass_of_accepted seeding
    obtain ⟨ending', made'⟩ := pass_of_accepted (same ▸ seeding)
    rw [made, made', ending, ending']
    exact both.drain corresponds

/-- Roots with names of their own are put in order by the agenda, whichever order they come in. -/
theorem pass_of_perm (moved : doc.roots ~ other.roots) (distinct : (doc.roots.map (·.id)).Nodup) :
    doc.pass.declarations = other.pass.declarations ∧ doc.pass.ending = other.pass.ending := by
  have names := moved.map (·.id)
  have accepted := Agenda.result_enqueueAll.2 (Agenda.fresh_empty.2 distinct)
  have accepted' := Agenda.result_enqueueAll.2 (Agenda.fresh_empty.2 (names.nodup_iff.1 distinct))
  have both : doc.seeded.Corresponds Eq other.seeded := by
    constructor
    · rw [List.forall₂_eq_eq_eq]
      apply Agenda.pending_eq_of_perm
      exact (seeded_perm accepted).trans (moved.trans (seeded_perm accepted').symm)
    · intro name
      have seen := (Agenda.accepts_enqueueAll accepted).seen name
      have seen' := (Agenda.accepts_enqueueAll accepted').seen name
      rw [names.mem_iff] at seen
      exact seen.trans seen'.symm
  obtain ⟨ending, made⟩ := pass_of_accepted accepted
  obtain ⟨ending', made'⟩ := pass_of_accepted accepted'
  rw [made, made', ending, ending']
  exact both.drain Correspondence.eq

end Document

end SchemaTypes
