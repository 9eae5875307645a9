import SchemaTypes.Dialect.Go
import SchemaTypes.Proofs.Pass.Coverage

/-!
# What a failed pass leaves

A pass fails in one of three places: while the roots are put on the agenda, at the declaration of the schema
that was taken, or when what this schema lifts out is put on the agenda. The place tells what is left behind.
No declaration is written in part, none is missing that is named before the schema at fault, and none is there
that is named behind it.
-/

namespace SchemaTypes
set_option autoImplicit false

/-- The places where a pass may fail. -/
inductive Failure where
  /-- A root is refused. -/
  | seeding
  /-- The declaration of a schema fails. -/
  | declaring (s : Schema)
  /-- What a schema lifts out is refused. -/
  | queuing (s : Schema)

/-- The schema that was taken off the agenda before the failure. -/
def Failure.schema? : Failure → Option Schema
  | .seeding => none
  | .declaring s | .queuing s => some s

namespace Document

variable {doc : Document}

/-- Where and how the pass over a document fails. -/
inductive FailsAt (doc : Document) : Failure → Defect → Prop where
  | seeding {defect : Defect} (refused : (Agenda.empty.enqueueAll doc.roots).2.result = .error defect) :
      FailsAt doc .seeding defect
  | declaring {agenda : Agenda} {s : Schema} {popped : List String} {declarations : List Declaration}
      {defect : Defect} (run : Reaches doc.start ⟨agenda, .declare s, popped, declarations⟩)
      (failed : s.declare.result = .error defect) : FailsAt doc (.declaring s) defect
  | queuing {agenda : Agenda} {s : Schema} {popped : List String} {declarations : List Declaration}
      {declaration : Declaration} {hoisted : List Schema} {defect : Defect}
      (run : Reaches doc.start ⟨agenda, .declare s, popped, declarations⟩)
      (declared : s.declare.result = .ok (declaration, hoisted))
      (refused : (agenda.enqueueAll hoisted).2.result = .error defect) : FailsAt doc (.queuing s) defect

/-- A failure while an agenda is drained is a failure of the pass that drains it. -/
theorem failsAt_of_drain (agenda : Agenda) {popped : List String} {declarations : List Declaration}
    {defect : Defect} (run : Reaches doc.start ⟨agenda, .queue [], popped, declarations⟩)
    (failed : agenda.drain.ending = .error defect) : ∃ failure, doc.FailsAt failure defect := by
  fun_induction Agenda.drain agenda generalizing popped declarations with
  | case1 => cases failed
  | case2 agenda s rest taken _ failed' =>
    cases failed
    exact ⟨_, .declaring (run.trans (.step (.take taken) (.refl _))) failed'⟩
  | case3 agenda s rest taken declaration hoisted declared _ queued events =>
    rename_i refused
    cases failed
    exact ⟨_, .queuing (run.trans (.step (.take taken) (.refl _))) declared refused⟩
  | case4 agenda s rest taken declaration hoisted declared _ queued events accepted =>
    rename_i ih
    have round : Reaches ⟨agenda, .queue [], popped, declarations⟩
        ⟨queued.1, .queue [], popped ++ [s.id], declarations ++ [declaration]⟩ :=
      .step (.take taken) (.step (.declare declared) (reaches_of_accepted _ _ accepted))
    exact ih (run.trans round) failed

/-- A pass that fails does so in one of the places. -/
theorem exists_failsAt {defect : Defect} (failed : doc.pass.ending = .error defect) :
    ∃ failure, doc.FailsAt failure defect := by
  cases seeding : (Agenda.empty.enqueueAll doc.roots).2.result with
  | error defect' =>
    rw [(pass_of_refused seeding).1] at failed
    cases failed
    exact ⟨_, .seeding seeding⟩
  | ok =>
    rw [(pass_of_accepted seeding).1] at failed
    exact failsAt_of_drain doc.seeded (reaches_of_accepted [] [] seeding) failed

/-- The schema at fault was taken off the agenda before. -/
theorem FailsAt.exists_run {failure : Failure} {defect : Defect} {s : Schema}
    (fails : doc.FailsAt failure defect) (fault : failure.schema? = some s) :
    ∃ agenda popped declarations, Reaches doc.start ⟨agenda, .declare s, popped, declarations⟩ := by
  cases fails with
  | seeding => cases fault
  | declaring run =>
    cases fault
    exact ⟨_, _, _, run⟩
  | queuing run =>
    cases fault
    exact ⟨_, _, _, run⟩

/-- The declarations that are left when a pass fails: all sites named before the schema at fault, and this
schema itself if only what it lifts out is refused. -/
def declarationsBefore (doc : Document) : Failure → List Declaration
  | .seeding => []
  | .declaring s => doc.declarationsBelow s.id
  | .queuing s => doc.declarationsBelow s.id ++ [s.site.declaration]

/-- **The place of a failure settles what a pass leaves.** -/
theorem pass_of_failsAt {failure : Failure} {defect : Defect} (fails : doc.FailsAt failure defect) :
    doc.pass.ending = .error defect ∧ doc.pass.declarations = doc.declarationsBefore failure := by
  cases fails with
  | seeding refused => exact pass_of_refused refused
  | declaring run failed =>
    have stops := run.trans (.step (.fail failed) (.refl _))
    obtain ⟨ending, made⟩ := pass_of_stopped stops rfl
    exact ⟨ending, made.trans run.declarations_eq⟩
  | queuing run declared refused =>
    have stops := run.trans (.step (.declare declared) (reaches_of_refused _ _ refused))
    obtain ⟨ending, made⟩ := pass_of_stopped stops rfl
    obtain ⟨-, -, rfl, -⟩ := Schema.result_declare.1 declared
    exact ⟨ending, made.trans (congrArg (· ++ _) run.declarations_eq)⟩

/-- What is left are whole declarations. -/
theorem whole_of_mem_declarationsBefore {failure : Failure} {defect : Defect}
    (fails : doc.FailsAt failure defect) {declaration : Declaration}
    (mem : declaration ∈ doc.declarationsBefore failure) :
    ∃ site ∈ doc.dueSites, site.Resolves ∧ declaration = site.declaration := by
  cases fails with
  | seeding => cases mem
  | declaring run =>
    obtain ⟨_, covers⟩ := run.covers trivial
    exact covers.whole (run.declarations_eq ▸ mem)
  | queuing run declared =>
    obtain ⟨_, covers⟩ := (run.trans (.step (.declare declared) (.refl _))).covers trivial
    obtain ⟨-, -, rfl, -⟩ := Schema.result_declare.1 declared
    exact covers.whole (run.declarations_eq ▸ mem)

/-- A declaration named before `name` stands for a site with such a name. -/
theorem lt_of_mem_declarationsBelow {name : String} {declaration : Declaration}
    (mem : declaration ∈ doc.declarationsBelow name) : declaration.id < name := by
  obtain ⟨site, below, rfl⟩ := List.mem_map.1 (List.mem_mergeSort.1 mem)
  exact of_decide_eq_true (List.mem_filter.1 below).2

/-- Nothing is left that is named behind the schema at fault. -/
theorem le_of_mem_declarationsBefore {failure : Failure} {s : Schema} (fault : failure.schema? = some s)
    {declaration : Declaration} (mem : declaration ∈ doc.declarationsBefore failure) :
    declaration.id ≤ s.id := by
  cases failure with
  | seeding => cases mem
  | declaring =>
    cases fault
    exact Std.le_of_lt (lt_of_mem_declarationsBelow mem)
  | queuing =>
    cases fault
    rcases List.mem_append.1 mem with mem | mem
    · exact Std.le_of_lt (lt_of_mem_declarationsBelow mem)
    · rw [List.mem_singleton.1 mem]
      exact Std.le_refl _

end Document

/-- **What a failed document leaves.** A document fails just when it fails in one of the places, and then
nothing is added to the sheet but the header and whole declarations, which are counted: none if a root was
refused, else those of all sites named before the schema at fault, in the order of their names, and the
schema's own one if what it lifts out was refused. Each of them has a field for every property, and every root
named before the schema at fault is a struct. -/
theorem failed_document_leaves (d : Dialect) (sheet : Sheet) (doc : Document) (defect : Defect) :
    ((sheet.writeDocument d doc).2.result = .error defect ↔ ∃ failure, doc.FailsAt failure defect) ∧
      ∀ failure, doc.FailsAt failure defect →
        (sheet.writeDocument d doc).1 =
            { text := sheet.text ++ d.header doc.name ++ d.spellDeclarations (doc.declarationsBefore failure)
              declared := sheet.declared + (doc.declarationsBefore failure).length } ∧
          (∀ declaration ∈ doc.declarationsBefore failure,
            ∃ site ∈ doc.dueSites, site.Resolves ∧ declaration = site.declaration) ∧
          ∀ s, failure.schema? = some s →
            (∀ root ∈ doc.roots, root.id < s.id → root.isStruct = true) ∧
              ∀ declaration ∈ doc.declarationsBefore failure, declaration.id ≤ s.id := by
  rw [Sheet.result_writeDocument]
  refine ⟨⟨Document.exists_failsAt, fun ⟨_, fails⟩ => (Document.pass_of_failsAt fails).1⟩, ?_⟩
  intro failure fails
  obtain ⟨ending, made⟩ := Document.pass_of_failsAt fails
  refine ⟨?_, ?_, ?_⟩
  · unfold Sheet.writeDocument
    simp only [ending, made, Sheet.addText, Sheet.addDeclarations]
  · exact fun _ => Document.whole_of_mem_declarationsBefore fails
  · intro s fault
    obtain ⟨_, _, _, run⟩ := fails.exists_run fault
    exact ⟨fun _ => run.isStruct_of_lt, fun _ => Document.le_of_mem_declarationsBefore fault⟩

/-- A box, and another root that has the name of its lid. -/
def lidded : Document where
  name := "lidded"
  schemas := [("Box", .struct "" [("lid", .struct "" [])]), ("BoxLid", .struct "" [])]

theorem lidded_failsAt :
    lidded.FailsAt (.queuing (.struct "Box" [("lid", .struct "" [])])) (.duplicate "BoxLid") := by
  have seeding : (Agenda.empty.enqueueAll lidded.roots).2.result = .ok () := by decide +kernel
  have run := reaches_of_accepted [] [] seeding
  refine .queuing (run.trans (.step (.take rfl) (.refl _))) (Schema.result_declare.2 ⟨rfl, ?_, rfl, rfl⟩) ?_
  · intro entry mem
    obtain rfl := List.mem_singleton.1 mem
    exact ⟨_, rfl⟩
  · decide +kernel

theorem lidded_leaves :
    lidded.FailsAt (.queuing (.struct "Box" [("lid", .struct "" [])])) (.duplicate "BoxLid") ∧
      (Sheet.writeDocument .go {} lidded).2.result = .error (.duplicate "BoxLid") ∧
      (Sheet.writeDocument .go {} lidded).1.text =
        "package lidded\ntype Box struct\x7b\n\tLid BoxLid\n\x7d\n" := by
  obtain ⟨fails, left⟩ := failed_document_leaves .go {} lidded (.duplicate "BoxLid")
  refine ⟨lidded_failsAt, fails.2 ⟨_, lidded_failsAt⟩, ?_⟩
  rw [(left _ lidded_failsAt).1]
  decide +kernel

end SchemaTypes
