import SchemaTypes.Proofs.SingleDeclaration

/-!
# The writing loop

A document can be written as its declarations come: the smallest pending name is taken, its declaration is written on
the sheet, and what that lifts out is queued before the next name is taken. `writeDocument` runs the pass first and
puts all of its declarations on the sheet at once. Both leave the same sheet, report the same events and end alike,
since no declaration depends on what is on the sheet.
-/

namespace SchemaTypes.Sheet
set_option autoImplicit false

/-- What a written declaration lifts out leaves fewer nodes pending. -/
theorem size_visit_lt {d : Dialect} {sheet : Sheet} {agenda rest : Agenda} {s : Schema} {hoisted : List Schema}
    (popped : agenda.popMin = some (s, rest)) (written : (sheet.writeDeclaration d s).2.result = .ok hoisted) :
    (rest.enqueueAll hoisted).1.size < agenda.size := by
  obtain ⟨_, declared, -⟩ := sheet.exists_declaration d written
  exact Agenda.size_step_lt popped declared

variable (d : Dialect)

/-- Writes the declarations of what is pending, and of what is lifted out of it, until nothing is left. The first
failure ends it; what is on the sheet by then stays there. -/
def writePending (sheet : Sheet) (agenda : Agenda) : Sheet × Traced Defect Unit :=
  match popped : agenda.popMin with
  | none => (sheet, pure ())
  | some (s, rest) =>
    let declaring := sheet.writeDeclaration d s
    match written : declaring.2.result with
    | .error defect => (declaring.1, ⟨declaring.2.events, .error defect⟩)
    | .ok hoisted =>
      have := size_visit_lt popped written
      let queued := rest.enqueueAll hoisted
      let events := declaring.2.events ++ queued.2.events
      match queued.2.result with
      | .error defect => (declaring.1, ⟨events, .error defect⟩)
      | .ok () =>
        let later := writePending declaring.1 queued.1
        (later.1, ⟨events ++ later.2.events, later.2.result⟩)
termination_by agenda.size

/-- Writes a document as its declarations come. -/
def writeInTurn (sheet : Sheet) (doc : Document) : Sheet × Traced Defect Unit :=
  let opened := sheet.addText (d.header doc.name)
  let (agenda, seeding) := Agenda.empty.enqueueAll doc.roots
  match seeding.result with
  | .error defect => (opened, ⟨seeding.events, .error defect⟩)
  | .ok () =>
    let (written, pending) := opened.writePending d agenda
    let events := seeding.events ++ .seeded doc.name agenda.length :: pending.events
    match pending.result with
    | .error defect => (written, ⟨events, .error defect⟩)
    | .ok () => (written.addText d.footer, ⟨events ++ [.finished doc.name written.declared], .ok ()⟩)

/-- **The loop puts the declarations of the pass on the sheet**, with the events of the pass and its ending. -/
theorem writePending_eq (sheet : Sheet) (agenda : Agenda) :
    sheet.writePending d agenda =
      (sheet.addDeclarations d agenda.drain.declarations, ⟨agenda.drain.events, agenda.drain.ending⟩) := by
  fun_induction writePending d sheet agenda with
  | case1 sheet agenda done =>
    rw [Agenda.drain_eq, done, addDeclarations_nil]
    rfl
  | case2 sheet agenda s rest popped declaring defect failed =>
    obtain ⟨refused, kept⟩ := sheet.writeDeclaration_eq_error d failed
    rw [Agenda.drain_eq, popped]
    simp only [declaring, refused, kept, events_writeDeclaration, addDeclarations_nil]
  | case3 sheet agenda s rest popped declaring hoisted written _ queued events defect refused =>
    obtain ⟨declaration, declared, added⟩ := sheet.exists_declaration d written
    rw [Agenda.drain_eq, popped]
    simp only [declaring, events, declared, added, events_writeDeclaration]
    rw [refused]
  | case4 sheet agenda s rest popped declaring hoisted written _ queued events accepted later ih =>
    obtain ⟨declaration, declared, added⟩ := sheet.exists_declaration d written
    rw [Agenda.drain_eq, popped]
    simp only [later, ih, declaring, events, declared, added, events_writeDeclaration]
    rw [accepted, ← addDeclarations_append, List.singleton_append]

/-- **A document is written as its declarations come.** -/
theorem writeDocument_eq_writeInTurn (sheet : Sheet) (doc : Document) :
    sheet.writeDocument d doc = sheet.writeInTurn d doc := by
  unfold writeDocument writeInTurn Document.pass
  cases seeding : (Agenda.empty.enqueueAll doc.roots).2.result with
  | error defect => simp only [seeding, addDeclarations_nil]
  | ok =>
    cases ending : (Agenda.empty.enqueueAll doc.roots).1.drain.ending <;>
      simp only [seeding, writePending_eq, ending]

end SchemaTypes.Sheet
