import SchemaTypes.Pass
import SchemaTypes.Proofs.Agenda

/-!
# A pass step by step

A pass as a machine whose points lie between two actions: one schema is put on the agenda or refused, one
is taken off it, one is declared or fails. A point also remembers the names taken so far, which the pass
itself forgets. `Document.reaches_stopped` says that the machine runs to the end that the pass tells: the
same declarations, and the same ending.
-/

namespace SchemaTypes
set_option autoImplicit false

open scoped List

namespace Document

/-- The agenda that a pass drains, once all roots are on it. -/
def seeded (doc : Document) : Agenda :=
  (Agenda.empty.enqueueAll doc.roots).1

/-- A pass whose roots are accepted goes on to drain the agenda. -/
theorem pass_of_accepted {doc : Document}
    (accepted : (Agenda.empty.enqueueAll doc.roots).2.result = .ok ()) :
    doc.pass.ending = doc.seeded.drain.ending ∧ doc.pass.declarations = doc.seeded.drain.declarations := by
  simp [pass, accepted, seeded]

/-- A pass whose roots are refused declares nothing. -/
theorem pass_of_refused {doc : Document} {defect : Defect}
    (refused : (Agenda.empty.enqueueAll doc.roots).2.result = .error defect) :
    doc.pass.ending = .error defect ∧ doc.pass.declarations = [] := by
  simp [pass, refused]

/-- A pass whose roots are accepted has just these pending when it begins to drain the agenda. -/
theorem seeded_perm {doc : Document} (accepted : (Agenda.empty.enqueueAll doc.roots).2.result = .ok ()) :
    doc.seeded.pending ~ doc.roots :=
  (Agenda.accepts_enqueueAll accepted).pending.trans (.of_eq (List.append_nil _))

/-- A pass that comes to its end has put its roots on the agenda and drained it. -/
theorem drained_of_done {doc : Document} (done : doc.pass.ending = .ok ()) :
    doc.seeded.pending ~ doc.roots ∧ doc.seeded.drain.ending = .ok () ∧
      doc.pass.declarations = doc.seeded.drain.declarations := by
  cases seeding : (Agenda.empty.enqueueAll doc.roots).2.result with
  | error defect =>
    rw [(pass_of_refused seeding).1] at done
    cases done
  | ok =>
    obtain ⟨ending, made⟩ := pass_of_accepted seeding
    exact ⟨seeded_perm seeding, ending ▸ done, made⟩

end Document

/-- What a pass does next: put schemas on the agenda before it takes another one, declare the one that was
taken, or nothing any more. -/
inductive Phase where
  | queue (waiting : List Schema)
  | declare (s : Schema)
  | stopped (ending : Except Defect Unit)

/-- A pass between two actions, with the names taken off the agenda so far and the declarations made. -/
structure Point where
  agenda : Agenda
  phase : Phase
  popped : List String
  declarations : List Declaration

/-- The actions of a pass. -/
inductive Step : Point → Point → Prop where
  | accept {agenda next : Agenda} {s : Schema} {waiting : List Schema} {popped : List String}
      {declarations : List Declaration} (accepted : agenda.enqueue s = .ok next) :
      Step ⟨agenda, .queue (s :: waiting), popped, declarations⟩
        ⟨next, .queue waiting, popped, declarations⟩
  | refuse {agenda : Agenda} {s : Schema} {waiting : List Schema} {popped : List String}
      {declarations : List Declaration} {defect : Defect} (refused : agenda.enqueue s = .error defect) :
      Step ⟨agenda, .queue (s :: waiting), popped, declarations⟩
        ⟨agenda, .stopped (.error defect), popped, declarations⟩
  | take {agenda rest : Agenda} {s : Schema} {popped : List String} {declarations : List Declaration}
      (taken : agenda.popMin = some (s, rest)) :
      Step ⟨agenda, .queue [], popped, declarations⟩
        ⟨rest, .declare s, popped ++ [s.id], declarations⟩
  | finish {agenda : Agenda} {popped : List String} {declarations : List Declaration}
      (done : agenda.popMin = none) :
      Step ⟨agenda, .queue [], popped, declarations⟩ ⟨agenda, .stopped (.ok ()), popped, declarations⟩
  | declare {agenda : Agenda} {s : Schema} {popped : List String} {declarations : List Declaration}
      {declaration : Declaration} {hoisted : List Schema}
      (declared : s.declare.result = .ok (declaration, hoisted)) :
      Step ⟨agenda, .declare s, popped, declarations⟩
        ⟨agenda, .queue hoisted, popped, declarations ++ [declaration]⟩
  | fail {agenda : Agenda} {s : Schema} {popped : List String} {declarations : List Declaration}
      {defect : Defect} (failed : s.declare.result = .error defect) :
      Step ⟨agenda, .declare s, popped, declarations⟩
        ⟨agenda, .stopped (.error defect), popped, declarations⟩

/-- The points of a run. -/
inductive Reaches : Point → Point → Prop where
  | refl (p : Point) : Reaches p p
  | step {p q r : Point} : Step p q → Reaches q r → Reaches p r

namespace Reaches

theorem trans {p q r : Point} (first : Reaches p q) (second : Reaches q r) : Reaches p r := by
  induction first with
  | refl => exact second
  | step action _ ih => exact .step action (ih second)

/-- What every action keeps holds at all points of a run. -/
theorem invariant {Inv : Point → Prop} (kept : ∀ p q, Step p q → Inv p → Inv q) {p q : Point}
    (run : Reaches p q) (start : Inv p) : Inv q := by
  induction run with
  | refl => exact start
  | step action _ ih => exact ih (kept _ _ action start)

/-- A run that goes anywhere has a last action. -/
theorem eq_or_last {p q : Point} (run : Reaches p q) : p = q ∨ ∃ r, Reaches p r ∧ Step r q := by
  induction run with
  | refl => exact .inl rfl
  | @step p _ q action rest ih =>
    rcases ih with rfl | ⟨r, before, last⟩
    · exact .inr ⟨p, .refl p, action⟩
    · exact .inr ⟨r, .step action before, last⟩

end Reaches

/-- What a pass does next is settled at every point. -/
theorem Step.unique {p q r : Point} (first : Step p q) (second : Step p r) : q = r := by
  cases first with
  | accept accepted =>
    cases second with
    | accept accepted' =>
      cases accepted.symm.trans accepted'
      rfl
    | refuse refused => cases accepted.symm.trans refused
  | refuse refused =>
    cases second with
    | accept accepted => cases refused.symm.trans accepted
    | refuse refused' =>
      cases refused.symm.trans refused'
      rfl
  | take taken =>
    cases second with
    | take taken' =>
      cases taken.symm.trans taken'
      rfl
    | finish done => cases taken.symm.trans done
  | finish done =>
    cases second with
    | take taken => cases done.symm.trans taken
    | finish => rfl
  | declare declared =>
    cases second with
    | declare declared' =>
      cases declared.symm.trans declared'
      rfl
    | fail failed => cases declared.symm.trans failed
  | fail failed =>
    cases second with
    | declare declared => cases failed.symm.trans declared
    | fail failed' =>
      cases failed.symm.trans failed'
      rfl

theorem Step.not_stopped {p q : Point} {ending : Except Defect Unit} (action : Step p q) :
    p.phase ≠ .stopped ending := by
  cases action <;> exact nofun

/-- Two runs from one point that have both stopped are the same run. -/
theorem Reaches.stopped_unique {p q r : Point} {ending ending' : Except Defect Unit} (run : Reaches p q)
    (run' : Reaches p r) (stopped : q.phase = .stopped ending) (stopped' : r.phase = .stopped ending') :
    q = r := by
  induction run with
  | refl =>
    cases run' with
    | refl => rfl
    | step action _ => exact absurd stopped action.not_stopped
  | step action _ ih =>
    cases run' with
    | refl => exact absurd stopped' action.not_stopped
    | step action' rest =>
      obtain rfl := action.unique action'
      exact ih rest stopped

/-- Schemas that are all accepted are put on the agenda one by one. -/
theorem reaches_of_accepted {agenda : Agenda} {waiting : List Schema} (popped : List String)
    (declarations : List Declaration) (accepted : (agenda.enqueueAll waiting).2.result = .ok ()) :
    Reaches ⟨agenda, .queue waiting, popped, declarations⟩
      ⟨(agenda.enqueueAll waiting).1, .queue [], popped, declarations⟩ := by
  induction waiting generalizing agenda with
  | nil => exact .refl _
  | cons s more ih =>
    simp only [Agenda.enqueueAll] at accepted ⊢
    split at accepted
    · cases accepted
    · next next first =>
      obtain ⟨_, _, rest⟩ := Traced.result_bind_eq_ok.1 accepted
      exact .step (.accept first) (ih rest)

/-- The first schema that is refused stops the run. -/
theorem reaches_of_refused {agenda : Agenda} {waiting : List Schema} {defect : Defect}
    (popped : List String) (declarations : List Declaration)
    (refused : (agenda.enqueueAll waiting).2.result = .error defect) :
    Reaches ⟨agenda, .queue waiting, popped, declarations⟩
      ⟨(agenda.enqueueAll waiting).1, .stopped (.error defect), popped, declarations⟩ := by
  induction waiting generalizing agenda with
  | nil => cases refused
  | cons s more ih =>
    simp only [Agenda.enqueueAll] at refused ⊢
    split at refused
    · next first =>
      cases refused
      exact .step (.refuse first) (.refl _)
    · next next first => exact .step (.accept first) (ih refused)

/-- A run that drains an agenda ends as `Agenda.drain` tells. -/
theorem Agenda.reaches_stopped (agenda : Agenda) (popped : List String) (declarations : List Declaration) :
    ∃ last : Point, Reaches ⟨agenda, .queue [], popped, declarations⟩ last ∧
      last.phase = .stopped agenda.drain.ending ∧
      last.declarations = declarations ++ agenda.drain.declarations := by
  fun_induction Agenda.drain agenda generalizing popped declarations with
  | case1 agenda done =>
    exact ⟨_, .step (.finish done) (.refl _), rfl, (List.append_nil _).symm⟩
  | case2 agenda s rest taken defect failed =>
    exact ⟨_, .step (.take taken) (.step (.fail failed) (.refl _)), rfl, (List.append_nil _).symm⟩
  | case3 agenda s rest taken declaration hoisted declared _ queued events defect refused =>
    refine ⟨_, .step (.take taken) (.step (.declare declared) (reaches_of_refused _ _ refused)), rfl, rfl⟩
  | case4 agenda s rest taken declaration hoisted declared _ queued events accepted later ih =>
    obtain ⟨last, run, ending, made⟩ := ih (popped ++ [s.id]) (declarations ++ [declaration])
    refine ⟨last, ?_, ending, ?_⟩
    · exact .step (.take taken) (.step (.declare declared) ((reaches_of_accepted _ _ accepted).trans run))
    · rw [made, List.append_assoc, List.singleton_append]

/-- The beginning of a pass: the roots wait to be put on an empty agenda. -/
def Document.start (doc : Document) : Point :=
  ⟨Agenda.empty, .queue doc.roots, [], []⟩

/-- **The machine ends as the pass does.** -/
theorem Document.reaches_stopped (doc : Document) :
    ∃ last, Reaches doc.start last ∧ last.phase = .stopped doc.pass.ending ∧
      last.declarations = doc.pass.declarations := by
  cases seeding : (Agenda.empty.enqueueAll doc.roots).2.result with
  | error defect =>
    obtain ⟨ending, made⟩ := pass_of_refused seeding
    rw [ending, made]
    exact ⟨_, reaches_of_refused [] [] seeding, rfl, rfl⟩
  | ok =>
    obtain ⟨last, run, ending, made⟩ := doc.seeded.reaches_stopped [] []
    obtain ⟨ending', made'⟩ := pass_of_accepted seeding
    rw [ending', made']
    exact ⟨last, (reaches_of_accepted [] [] seeding).trans run, ending, made⟩

/-- Wherever the machine stops, the pass ends. -/
theorem Document.pass_of_stopped {doc : Document} {point : Point} {ending : Except Defect Unit}
    (run : Reaches doc.start point) (stopped : point.phase = .stopped ending) :
    doc.pass.ending = ending ∧ doc.pass.declarations = point.declarations := by
  obtain ⟨last, run', ended, made⟩ := doc.reaches_stopped
  obtain rfl := run.stopped_unique run' stopped ended
  rw [stopped] at ended
  cases ended
  exact ⟨rfl, made.symm⟩

end SchemaTypes
