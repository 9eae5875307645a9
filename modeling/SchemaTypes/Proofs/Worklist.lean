import Mathlib.Algebra.Order.Group.Multiset
import SchemaTypes.Proofs.Agenda
import SchemaTypes.Proofs.Text.ByteOrder

/-!
# Agendas as worklists

What an agenda is for can be said without an order and without two structures kept in step: a worklist has
some schemas pending and knows the names of all schemas it ever accepted. A call on it is told by what it
answers, which schemas it accepts and what it leaves. `agenda_serves_as_worklist` says that no sequence of calls
tells an agenda from a worklist, and where the schemas that were accepted have gone.
-/

namespace SchemaTypes
set_option autoImplicit false

open scoped List

/-- A call on an agenda. -/
inductive Call where
  | seed (schemas : List Schema)
  | enqueue (s : Schema)
  | pop

/-- What a call gives back: whether it was carried out, or the schema that was taken. -/
inductive Answer where
  | outcome (result : Except Defect Unit)
  | popped (taken : Option Schema)

/-- The schema that an answer hands over. -/
def Answer.taken : Answer → List Schema
  | .popped taken => taken.toList
  | .outcome _ => []

/-- An answer, and what is told about the pending schemas behind it. -/
structure Report where
  answer : Answer
  length : Nat
  isEmpty : Bool

/-- The schemas that reports hand over, in turn. -/
def takenIn (reports : List Report) : List Schema :=
  reports.flatMap fun report => report.answer.taken

namespace Agenda

/-- Carries out a call. A schema that is refused leaves the agenda as it is. -/
def carryOut (agenda : Agenda) : Call → Agenda × Answer
  | .seed schemas => ((agenda.enqueueAll schemas).1, .outcome (agenda.enqueueAll schemas).2.result)
  | .enqueue s =>
    match agenda.enqueue s with
    | .ok next => (next, .outcome (.ok ()))
    | .error defect => (agenda, .outcome (.error defect))
  | .pop =>
    match agenda.popMin with
    | some (s, rest) => (rest, .popped (some s))
    | none => (agenda, .popped none)

/-- Carries out calls in turn, with a report on each. -/
def serve (agenda : Agenda) : List Call → Agenda × List Report
  | [] => (agenda, [])
  | call :: more =>
    let (next, answer) := agenda.carryOut call
    let (last, reports) := next.serve more
    (last, ⟨answer, next.length, next.isEmpty⟩ :: reports)

end Agenda

/-- Pending schemas in no order, and the names of all schemas that were ever accepted. -/
@[ext]
structure Worklist where
  pending : Multiset Schema
  names : Set String

namespace Worklist

/-- A worklist that has accepted nothing. -/
def empty : Worklist := ⟨0, ∅⟩

/-- The worklist with more schemas. -/
def accept (w : Worklist) (schemas : List Schema) : Worklist where
  pending := schemas + w.pending
  names := {name | name ∈ schemas.map (·.id)} ∪ w.names

/-- Names that differ from each other and from all that were accepted. -/
def Admits (w : Worklist) (schemas : List Schema) : Prop :=
  (schemas.map (·.id)).Nodup ∧ ∀ s ∈ schemas, s.id ∉ w.names

/-- A call on a worklist: its answer, the schemas that it accepts, and what it leaves. -/
inductive Answers (w : Worklist) : Call → Answer → List Schema → Worklist → Prop where
  | enqueue {s : Schema} (new : s.id ∉ w.names) : Answers w (.enqueue s) (.outcome (.ok ())) [s] (w.accept [s])
  /-- A name that was ever accepted is refused, and nothing changes. -/
  | refuse {s : Schema} (known : s.id ∈ w.names) :
      Answers w (.enqueue s) (.outcome (.error (.duplicate s.id))) [] w
  | seed {schemas : List Schema} (new : w.Admits schemas) :
      Answers w (.seed schemas) (.outcome (.ok ())) schemas (w.accept schemas)
  /-- What stands before the first name that is known by then stays, and what stands behind it is not touched. -/
  | seedBefore {before after : List Schema} {s : Schema} (new : w.Admits before)
      (known : s.id ∈ (w.accept before).names) :
      Answers w (.seed (before ++ s :: after)) (.outcome (.error (.duplicate s.id))) before (w.accept before)
  /-- What is taken is pending, and no name that is pending comes before its own. -/
  | pop {s : Schema} {rest : Multiset Schema} (pending : w.pending = s ::ₘ rest)
      (least : ∀ t ∈ rest, ¬ Utf8.Before t.id s.id) :
      Answers w .pop (.popped (some s)) [] { w with pending := rest }
  | popNothing (nothing : w.pending = 0) : Answers w .pop (.popped none) [] w

/-- Calls on a worklist in turn: the reports on them, all schemas that they accept, and what they leave. -/
inductive Serves : Worklist → List Call → List Report → List Schema → Worklist → Prop where
  | done (w : Worklist) : Serves w [] [] [] w
  | call {w next last : Worklist} {call : Call} {calls : List Call} {report : Report} {reports : List Report}
      {accepted later : List Schema} (answers : w.Answers call report.answer accepted next)
      (length : report.length = next.pending.card) (isEmpty : report.isEmpty = true ↔ next.pending = 0)
      (rest : Serves next calls reports later last) :
      Serves w (call :: calls) (report :: reports) (accepted ++ later) last

/-- The names of the pending schemas differ. -/
def Distinct (w : Worklist) : Prop :=
  (w.pending.map (·.id)).Nodup

variable {w next next' : Worklist} {call : Call} {answer answer' : Answer} {accepted accepted' : List Schema}

theorem Admits.not_known {before after : List Schema} {s : Schema} (new : w.Admits (before ++ s :: after)) :
    s.id ∉ (w.accept before).names := by
  obtain ⟨distinct, unseen⟩ := new
  rw [List.map_append, List.map_cons] at distinct
  rintro (mem | known)
  · exact (List.nodup_append.1 distinct).2.2 s.id mem s.id List.mem_cons_self rfl
  · exact unseen s (List.mem_append_right _ List.mem_cons_self) known

/-- The first name that is refused is the same one, however the schemas are told apart. -/
theorem Admits.refused_unique {before before' after after' : List Schema} {s s' : Schema} (new : w.Admits before)
    (new' : w.Admits before') (known : s.id ∈ (w.accept before).names) (known' : s'.id ∈ (w.accept before').names)
    (same : before ++ s :: after = before' ++ s' :: after') : before = before' ∧ s = s' := by
  rcases List.append_eq_append_iff.1 same with ⟨more, longer, rest⟩ | ⟨more, longer, rest⟩
  · cases more with
    | nil =>
      cases rest
      exact ⟨by simpa using longer.symm, rfl⟩
    | cons t more =>
      cases rest
      exact absurd known (longer ▸ new').not_known
  · cases more with
    | nil =>
      cases rest
      exact ⟨by simpa using longer, rfl⟩
    | cons t more =>
      cases rest
      exact absurd known' (longer ▸ new).not_known

/-- The schema that is taken is settled by its name. -/
theorem Distinct.taken_unique {s s' : Schema} {rest rest' : Multiset Schema} (distinct : w.Distinct)
    (pending : w.pending = s ::ₘ rest) (pending' : w.pending = s' ::ₘ rest')
    (least : ∀ t ∈ rest, ¬ Utf8.Before t.id s.id) (least' : ∀ t ∈ rest', ¬ Utf8.Before t.id s'.id) :
    s = s' ∧ rest = rest' := by
  rcases Multiset.cons_eq_cons.1 (pending.symm.trans pending') with same | ⟨-, others, rfl, rfl⟩
  · exact same
  · have first := least s' (Multiset.mem_cons_self _ _)
    have second := least' s (Multiset.mem_cons_self _ _)
    rw [Utf8.before_iff_lt, String.not_lt] at first second
    have names : s.id = s'.id := String.le_antisymm first second
    rw [Distinct, pending, Multiset.map_cons, Multiset.map_cons, names] at distinct
    exact absurd (Multiset.mem_cons_self _ _) (Multiset.nodup_cons.1 distinct).1

/-- **A call has one answer.** -/
theorem Answers.unique (distinct : w.Distinct) (answers : w.Answers call answer accepted next)
    (answers' : w.Answers call answer' accepted' next') : answer = answer' ∧ accepted = accepted' ∧ next = next' := by
  generalize same : call = call' at answers'
  cases answers with
  | enqueue new =>
    cases answers' with
    | enqueue => cases same; exact ⟨rfl, rfl, rfl⟩
    | refuse known => cases same; exact absurd known new
    | _ => cases same
  | refuse known =>
    cases answers' with
    | enqueue new => cases same; exact absurd known new
    | refuse => cases same; exact ⟨rfl, rfl, rfl⟩
    | _ => cases same
  | seed new =>
    cases answers' with
    | seed => cases same; exact ⟨rfl, rfl, rfl⟩
    | seedBefore _ known => cases same; exact absurd known new.not_known
    | _ => cases same
  | seedBefore new known =>
    cases answers' with
    | seed new' => cases same; exact absurd known new'.not_known
    | seedBefore new' known' =>
      injection same with same
      obtain ⟨rfl, rfl⟩ := new.refused_unique new' known known' same
      exact ⟨rfl, rfl, rfl⟩
    | _ => cases same
  | pop pending least =>
    cases answers' with
    | pop pending' least' =>
      obtain ⟨rfl, rfl⟩ := distinct.taken_unique pending pending' least least'
      exact ⟨rfl, rfl, rfl⟩
    | popNothing nothing => exact absurd (pending.symm.trans nothing) (Multiset.cons_ne_zero)
    | _ => cases same
  | popNothing nothing =>
    cases answers' with
    | pop pending _ => exact absurd (pending.symm.trans nothing) (Multiset.cons_ne_zero)
    | popNothing => exact ⟨rfl, rfl, rfl⟩
    | _ => cases same

/-- What was pending and what a call accepts is what the call hands over and what stays pending. -/
theorem Answers.balance (answers : w.Answers call answer accepted next) :
    (accepted : Multiset Schema) + w.pending = (answer.taken : Multiset Schema) + next.pending := by
  cases answers with
  | enqueue | seed | seedBefore => exact (Multiset.zero_add _).symm
  | refuse | popNothing => rfl
  | pop pending _ =>
    rw [pending]
    exact Multiset.zero_add _

/-- A call accepts new names, which are known from then on. -/
theorem Answers.admits (answers : w.Answers call answer accepted next) :
    w.Admits accepted ∧ next.names = {name | name ∈ accepted.map (·.id)} ∪ w.names := by
  cases answers with
  | enqueue new => exact ⟨⟨by simp, by simpa using new⟩, rfl⟩
  | seed new | seedBefore new => exact ⟨new, rfl⟩
  | refuse | pop | popNothing => exact ⟨⟨by simp, by simp⟩, by simp⟩

/-- **What was accepted is what was taken and what is pending.** -/
theorem Serves.balance {calls : List Call} {reports : List Report} (serves : w.Serves calls reports accepted next) :
    (accepted : Multiset Schema) + w.pending = (takenIn reports : Multiset Schema) + next.pending := by
  induction serves with
  | done => rfl
  | @call w next last call calls report reports accepted later answers _ _ _ ih =>
    calc (↑(accepted ++ later) + w.pending : Multiset Schema)
      _ = later + (accepted + w.pending) := by rw [← Multiset.coe_add, add_comm (accepted : Multiset Schema), add_assoc]
      _ = report.answer.taken + (later + next.pending) := by rw [answers.balance, add_left_comm]
      _ = report.answer.taken + (takenIn reports + last.pending) := by rw [ih]
      _ = takenIn (report :: reports) + last.pending := by rw [← add_assoc, Multiset.coe_add]; rfl

/-- All names that are ever accepted differ, and they are the names known in the end. -/
theorem Serves.admits {calls : List Call} {reports : List Report} (serves : w.Serves calls reports accepted next) :
    w.Admits accepted ∧ next.names = {name | name ∈ accepted.map (·.id)} ∪ w.names := by
  induction serves with
  | done => exact ⟨⟨by simp, by simp⟩, by simp⟩
  | @call w next last call calls report reports accepted later answers _ _ _ ih =>
    obtain ⟨⟨distinct, unseen⟩, names⟩ := answers.admits
    obtain ⟨⟨distinct', unseen'⟩, names'⟩ := ih
    have apart : ∀ s ∈ later, s.id ∉ accepted.map (·.id) ∧ s.id ∉ w.names := by
      intro s mem
      have new := unseen' s mem
      rw [names] at new
      exact not_or.1 new
    refine ⟨⟨?_, ?_⟩, ?_⟩
    · rw [List.map_append]
      refine List.nodup_append.2 ⟨distinct, distinct', ?_⟩
      rintro name mem _ mem' rfl
      obtain ⟨s, member, rfl⟩ := List.mem_map.1 mem'
      exact (apart s member).1 mem
    · intro s mem
      rcases List.mem_append.1 mem with mem | mem
      · exact unseen s mem
      · exact (apart s mem).2
    · rw [names', names]
      ext name
      simp only [List.map_append, Set.mem_union, Set.mem_ofPred_eq, List.mem_append]
      rw [or_assoc, or_left_comm]

end Worklist

namespace Agenda

/-- The worklist that an agenda stands for. -/
def worklist (agenda : Agenda) : Worklist where
  pending := agenda.pending
  names := {name | name ∈ agenda.seen}

theorem distinct_worklist (agenda : Agenda) : agenda.worklist.Distinct := by
  show (agenda.pending.map (·.id)).Nodup
  exact List.pairwise_map.2 (agenda.ascending.imp Std.ne_of_lt)

theorem Accepts.worklist {agenda next : Agenda} {schemas : List Schema} (accepts : agenda.Accepts schemas next) :
    next.worklist = agenda.worklist.accept schemas := by
  ext1
  · exact Multiset.coe_eq_coe.2 accepts.pending
  · ext name
    exact accepts.seen name

theorem fresh_iff_admits {agenda : Agenda} {schemas : List Schema} :
    Fresh agenda.seen (schemas.map (·.id)) ↔ agenda.worklist.Admits schemas := by
  simp [Fresh, Worklist.Admits, worklist]

/-- **An agenda answers a call as its worklist does.** -/
theorem exists_answers (agenda : Agenda) (call : Call) :
    ∃ accepted, agenda.worklist.Answers call (agenda.carryOut call).2 accepted (agenda.carryOut call).1.worklist := by
  cases call with
  | seed schemas =>
    cases outcome : (agenda.enqueueAll schemas).2.result with
    | ok =>
      have new := fresh_iff_admits.1 (result_enqueueAll.1 outcome)
      simp only [carryOut, outcome, (accepts_enqueueAll outcome).worklist]
      exact ⟨schemas, .seed new⟩
    | error defect =>
      obtain ⟨before, s, after, rfl, accepted, same, known, rfl⟩ := exists_refused outcome
      have new := fresh_iff_admits.1 (result_enqueueAll.1 accepted)
      have stays := (accepts_enqueueAll accepted).worklist
      simp only [carryOut, outcome, same, stays]
      exact ⟨before, .seedBefore new (stays ▸ known)⟩
  | enqueue s =>
    cases outcome : agenda.enqueue s with
    | ok next =>
      simp only [carryOut, outcome, (accepts_enqueue outcome).worklist]
      exact ⟨[s], .enqueue (enqueue_eq_ok outcome).1⟩
    | error defect =>
      obtain ⟨known, rfl⟩ := enqueue_eq_error.1 outcome
      simp only [carryOut, outcome]
      exact ⟨[], .refuse known⟩
  | pop =>
    cases outcome : agenda.popMin with
    | some taken =>
      obtain ⟨s, rest⟩ := taken
      obtain ⟨pending, seen⟩ := popMin_eq_some outcome
      have left : rest.worklist = { agenda.worklist with pending := rest.pending } := by
        simp only [worklist, seen]
      simp only [carryOut, outcome, left]
      refine ⟨[], .pop (congrArg _ pending) fun t mem => ?_⟩
      rw [Utf8.before_iff_lt]
      exact String.lt_asymm (lt_of_popMin outcome mem)
    | none =>
      simp only [carryOut, outcome]
      exact ⟨[], .popNothing (congrArg _ (popMin_eq_none.1 outcome))⟩

/-- An agenda serves calls as its worklist does, and the worklist has no other way to serve them. -/
theorem exists_serves (agenda : Agenda) (calls : List Call) :
    ∃ accepted, agenda.worklist.Serves calls (agenda.serve calls).2 accepted (agenda.serve calls).1.worklist ∧
      ∀ reports accepted' w, agenda.worklist.Serves calls reports accepted' w →
        reports = (agenda.serve calls).2 ∧ accepted' = accepted ∧ w = (agenda.serve calls).1.worklist := by
  induction calls generalizing agenda with
  | nil =>
    refine ⟨[], .done _, ?_⟩
    rintro reports accepted' w ⟨⟩
    exact ⟨rfl, rfl, rfl⟩
  | cons call more ih =>
    obtain ⟨accepted, answers⟩ := agenda.exists_answers call
    obtain ⟨later, serves, only⟩ := ih (agenda.carryOut call).1
    refine ⟨accepted ++ later, ?_, ?_⟩
    · refine .call answers rfl ?_ serves
      rw [isEmpty, List.isEmpty_iff]
      exact (Multiset.coe_eq_zero _).symm
    · intro reports accepted' w other
      cases other with
      | @call _ next _ _ _ report reports accepted' later' answers' length isEmpty rest =>
        obtain ⟨answer, rfl, rfl⟩ := answers'.unique agenda.distinct_worklist answers
        obtain ⟨rfl, rfl, rfl⟩ := only _ _ _ rest
        have told : report.isEmpty = (agenda.carryOut call).1.isEmpty := by
          rw [Bool.eq_iff_iff, isEmpty, Agenda.isEmpty, List.isEmpty_iff]
          exact Multiset.coe_eq_zero _
        obtain ⟨answer', length', isEmpty'⟩ := report
        cases answer
        cases length
        cases told
        exact ⟨rfl, rfl, rfl⟩

/-- The name of no schema is taken twice from an agenda that was empty in the beginning. -/
theorem nodup_takenIn {calls : List Call} {reports : List Report} {accepted : List Schema} {w : Worklist}
    (serves : Worklist.empty.Serves calls reports accepted w) : ((takenIn reports).map (·.id)).Nodup := by
  have balance := serves.balance
  rw [Worklist.empty, add_zero] at balance
  have within : (takenIn reports : Multiset Schema) ≤ accepted := balance ▸ Multiset.le_add_right _ _
  exact Multiset.coe_nodup.1 (Multiset.nodup_of_le (Multiset.map_le_map within) serves.admits.1.1)

end Agenda

/-- **An agenda serves calls as a worklist does.** Whatever calls are carried out on an empty agenda, a worklist serves
them with the same reports, and has no other way to serve them. The schemas that were accepted up to then are those
that were taken and those that are pending, their names are the names that are refused, and no name is taken
twice. -/
theorem agenda_serves_as_worklist (calls : List Call) :
    let (agenda, reports) := Agenda.empty.serve calls
    ∃ accepted w, Worklist.empty.Serves calls reports accepted w ∧
      (∀ reports' accepted' w', Worklist.empty.Serves calls reports' accepted' w' →
        reports' = reports ∧ accepted' = accepted ∧ w' = w) ∧
      w.pending = agenda.pending ∧
      (accepted : Multiset Schema) = (takenIn reports : Multiset Schema) + w.pending ∧
      (∀ name, name ∈ w.names ↔ ∃ s ∈ accepted, s.id = name) ∧
      ((takenIn reports).map (·.id)).Nodup := by
  have new : Agenda.empty.worklist = Worklist.empty := by
    ext1
    · rfl
    · exact Set.eq_empty_of_forall_notMem fun name => List.not_mem_nil
  obtain ⟨accepted, serves, only⟩ := Agenda.empty.exists_serves calls
  rw [new] at serves only
  have balance := serves.balance
  rw [Worklist.empty, add_zero] at balance
  refine ⟨accepted, _, serves, only, rfl, balance, ?_, Agenda.nodup_takenIn serves⟩
  intro name
  rw [serves.admits.2]
  simp [Worklist.empty]

end SchemaTypes
