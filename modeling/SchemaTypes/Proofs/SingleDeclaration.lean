import SchemaTypes.Dialect.Go
import SchemaTypes.Proofs.Declaration
import SchemaTypes.Proofs.Entries
import SchemaTypes.Proofs.Text.ByteOrder
import SchemaTypes.Sheet

/-!
# Writing a single declaration

A declaration is written as a whole or not at all. All properties are resolved before anything is written, in the
order of their keys, so the first of them that has no type decides how the writing fails.
-/

namespace SchemaTypes
set_option autoImplicit false

open scoped List

/-- Properties fail to resolve with the first one that has no type. -/
theorem exists_first_unresolved {owner : String} {entries : List (String × Schema)} {defect : Defect}
    (failed : (resolveFields owner entries).result = .error defect) :
    ∃ before entry after, entries = before ++ entry :: after ∧
      (∀ earlier ∈ before, (Schema.ofEntry earlier).Resolves owner) ∧
      ((Schema.ofEntry entry).resolve owner).result = .error defect := by
  induction entries with
  | nil => cases failed
  | cons first more ih =>
    rw [resolveFields.eq_def] at failed
    rcases Traced.result_bind_eq_error.1 failed with here | ⟨r, resolved, later⟩
    · exact ⟨[], first, more, rfl, by simp, here⟩
    · rcases Traced.result_bind_eq_error.1 later with later | ⟨_, _, impossible⟩
      · obtain ⟨before, entry, after, rfl, resolve, fails⟩ := ih later
        exact ⟨first :: before, entry, after, rfl, List.forall_mem_cons.2 ⟨⟨r, resolved⟩, resolve⟩, fails⟩
      · cases impossible

/-- What properties resolve to, one by one. -/
def ResolveTo (owner : String) (entries : List (String × Schema)) (resolutions : List Resolution) : Prop :=
  List.Forall₂ (fun entry r => ((Schema.ofEntry entry).resolve owner).result = .ok r) entries resolutions

theorem exists_resolveTo {owner : String} {entries : List (String × Schema)}
    (all : ∀ entry ∈ entries, (Schema.ofEntry entry).Resolves owner) :
    ∃ resolutions, ResolveTo owner entries resolutions := by
  induction entries with
  | nil => exact ⟨[], .nil⟩
  | cons entry more ih =>
    obtain ⟨first, resolved⟩ := all entry List.mem_cons_self
    obtain ⟨others, rest⟩ := ih fun later mem => all later (List.mem_cons_of_mem _ mem)
    exact ⟨first :: others, .cons resolved rest⟩

/-- The fields of properties, from what they resolve to. -/
def fieldsOf (entries : List (String × Schema)) (resolutions : List Resolution) : List Field :=
  List.zipWith (fun entry r => ⟨entry.1, exported entry.1, r.type⟩) entries resolutions

/-- Properties that have types become fields with these types, and lift out what these lift out. -/
theorem ResolveTo.result {owner : String} {entries : List (String × Schema)} {resolutions : List Resolution}
    (resolve : ResolveTo owner entries resolutions) :
    (resolveFields owner entries).result =
      .ok (fieldsOf entries resolutions, resolutions.flatMap fun r => r.hoisted.toList) := by
  induction resolve with
  | nil => rfl
  | cons first _ ih =>
    rw [resolveFields.eq_def]
    exact Traced.result_bind_eq_ok.2 ⟨_, first, Traced.result_bind_eq_ok.2 ⟨_, ih, rfl⟩⟩

namespace Sheet

variable (d : Dialect) (sheet : Sheet) {s : Schema}

/-- A declaration that fails leaves the sheet as it was. -/
theorem writeDeclaration_of_error {defect : Defect} (failed : s.declare.result = .error defect) :
    (sheet.writeDeclaration d s).1 = sheet ∧ (sheet.writeDeclaration d s).2.result = .error defect := by
  simp only [writeDeclaration, failed, and_self]

theorem writeDeclaration_of_ok {declaration : Declaration} {hoisted : List Schema}
    (declared : s.declare.result = .ok (declaration, hoisted)) :
    (sheet.writeDeclaration d s).1 = sheet.addDeclarations d [declaration] ∧
      (sheet.writeDeclaration d s).2.result = .ok hoisted := by
  simp only [writeDeclaration, declared, and_self]

@[simp] theorem events_writeDeclaration : (sheet.writeDeclaration d s).2.events = s.declare.events := by
  unfold writeDeclaration
  split <;> rfl

/-- A declaration that is written is the one of the schema, and what it lifts out is told. -/
theorem exists_declaration {hoisted : List Schema} (written : (sheet.writeDeclaration d s).2.result = .ok hoisted) :
    ∃ declaration, s.declare.result = .ok (declaration, hoisted) ∧
      (sheet.writeDeclaration d s).1 = sheet.addDeclarations d [declaration] := by
  cases outcome : s.declare.result with
  | error defect => cases (sheet.writeDeclaration_of_error d outcome).2.symm.trans written
  | ok pair =>
    obtain ⟨added, result⟩ := sheet.writeDeclaration_of_ok d outcome
    cases result.symm.trans written
    exact ⟨pair.1, rfl, added⟩

theorem writeDeclaration_eq_error {defect : Defect} (failed : (sheet.writeDeclaration d s).2.result = .error defect) :
    s.declare.result = .error defect ∧ (sheet.writeDeclaration d s).1 = sheet := by
  cases outcome : s.declare.result with
  | error defect' =>
    obtain ⟨kept, result⟩ := sheet.writeDeclaration_of_error d outcome
    cases result.symm.trans failed
    exact ⟨rfl, kept⟩
  | ok pair => cases (sheet.writeDeclaration_of_ok d outcome).2.symm.trans failed

@[simp] theorem addDeclarations_nil : sheet.addDeclarations d [] = sheet := by
  simp [addDeclarations, Dialect.spellDeclarations]

theorem addDeclarations_append (first others : List Declaration) :
    sheet.addDeclarations d (first ++ others) = (sheet.addDeclarations d first).addDeclarations d others := by
  simp [addDeclarations, Dialect.spellDeclarations, String.append_assoc, Nat.add_assoc]

theorem addDeclarations_singleton (declaration : Declaration) :
    sheet.addDeclarations d [declaration] =
      ⟨sheet.text ++ d.spellDeclaration declaration, sheet.declared + 1⟩ := by
  simp [addDeclarations, Dialect.spellDeclarations]

end Sheet

/-- A struct is declared as its properties resolve, in the order of their keys. -/
theorem Schema.result_declare_eq {s : Schema} (isStruct : s.isStruct = true) :
    s.declare.result = (resolveFields s.id (sortedByKey (s.properties.getD []))).result.map
      fun (fields, hoisted) => (⟨s.id, fields⟩, hoisted) := by
  rw [declare, if_pos isStruct]
  cases resolved : (resolveFields s.id (sortedByKey (s.properties.getD []))).result with
  | error defect => rw [Traced.bind_of_error _ resolved]; rfl
  | ok pair => rw [Traced.bind_of_ok _ resolved]; rfl

/-- **A declaration is written as a whole or not at all.** A schema that is no struct is refused by its name. A struct
with properties that have no type fails as the one of them with the smallest key does. Either way the sheet stays as
it was. Otherwise one declaration is added and counted, between its opening and its closing with a field for every
property, their keys in strictly ascending order of their bytes, each with its key, the exported form of it and the
type of the property; and what the properties lift out is returned in the same order. -/
theorem declaration_written_whole_or_not (d : Dialect) (sheet : Sheet) (s : Schema)
    (distinct : ((s.properties.getD []).map (·.1)).Nodup) :
    let properties := s.properties.getD []
    let written := sheet.writeDeclaration d s
    (s.isStruct = false → written.1 = sheet ∧ written.2.result = .error (.notStruct s.id)) ∧
      (s.isStruct = true → (∃ entry ∈ properties, ¬ (Schema.ofEntry entry).Resolves s.id) →
        ∃ entry ∈ properties, ∃ defect, ((Schema.ofEntry entry).resolve s.id).result = .error defect ∧
          (∀ other ∈ properties, ¬ (Schema.ofEntry other).Resolves s.id →
            other = entry ∨ Utf8.Before entry.1 other.1) ∧
          written.1 = sheet ∧ written.2.result = .error defect) ∧
      (s.isStruct = true → (∀ entry ∈ properties, (Schema.ofEntry entry).Resolves s.id) →
        ∃ entries resolutions, entries ~ properties ∧ (entries.map (·.1)).Pairwise Utf8.Before ∧
          ResolveTo s.id entries resolutions ∧
          written.1 =
            { text := sheet.text ++
                (d.opening s.id ++ String.join ((fieldsOf entries resolutions).map d.spellField) ++ d.closing)
              declared := sheet.declared + 1 } ∧
          written.2.result = .ok (resolutions.flatMap fun r => r.hoisted.toList)) := by
  intro properties written
  have ascending := ascending_sortedByKey distinct
  refine ⟨?_, ?_, ?_⟩
  · intro notStruct
    refine sheet.writeDeclaration_of_error d ?_
    rw [Schema.declare, notStruct]
    rfl
  · rintro isStruct ⟨entry, mem, unresolved⟩
    cases outcome : (resolveFields s.id (sortedByKey properties)).result with
    | ok pair =>
      have all := (result_resolveFields.1 outcome).1
      exact absurd (all entry (mem_sortedByKey.2 mem)) unresolved
    | error defect =>
      obtain ⟨before, first, after, split, resolve, fails⟩ := exists_first_unresolved outcome
      have failed : s.declare.result = .error defect := by
        rw [Schema.result_declare_eq isStruct, outcome]
        rfl
      refine ⟨first, mem_sortedByKey.1 (split ▸ by simp), defect, fails, ?_, sheet.writeDeclaration_of_error d failed⟩
      intro other mem unresolved
      -- What stands in front of the first one resolves, and what stands behind it has a larger key.
      have known : other ∈ before ++ first :: after := split ▸ mem_sortedByKey.2 mem
      rcases List.mem_append.1 known with earlier | later
      · exact absurd (resolve other earlier) unresolved
      · rw [split] at ascending
        have least := (List.pairwise_cons.1 (List.pairwise_append.1 ascending).2.1).1
        exact (List.mem_cons.1 later).imp_right fun behind => Utf8.before_iff_lt.2 (least other behind)
  · intro isStruct all
    have typed : ∀ entry ∈ sortedByKey properties, (Schema.ofEntry entry).Resolves s.id :=
      fun entry mem => all entry (mem_sortedByKey.1 mem)
    obtain ⟨resolutions, resolve⟩ := exists_resolveTo typed
    have declared : s.declare.result =
        .ok (⟨s.id, fieldsOf (sortedByKey properties) resolutions⟩, resolutions.flatMap fun r => r.hoisted.toList) := by
      rw [Schema.result_declare_eq isStruct, resolve.result]
      rfl
    obtain ⟨sheet', result⟩ := sheet.writeDeclaration_of_ok d declared
    refine ⟨sortedByKey properties, resolutions, sortedByKey_perm_self _, ?_, resolve, ?_, result⟩
    · exact List.pairwise_map.2 (ascending.imp Utf8.before_iff_lt.2)
    · exact sheet'.trans (sheet.addDeclarations_singleton d _)

/-- A disk with two properties that have no type, the one with the larger key written first. -/
def disk : Schema :=
  .struct "Disk" [("users", { kind := "array" }), ("size", { kind := "integer" })]

/-- The disk fails for its size, and what was on the sheet stays there. -/
theorem disk_not_written :
    ((disk.properties.getD []).map (·.1)).Nodup ∧
      (Sheet.writeDeclaration .go ⟨"package store\n", 0⟩ disk).1 = ⟨"package store\n", 0⟩ ∧
      (Sheet.writeDeclaration .go ⟨"package store\n", 0⟩ disk).2.result =
        .error (.unknownPrimitive "DiskSize" "integer" "") := by
  have distinct : ((disk.properties.getD []).map (·.1)).Nodup := by decide
  have size : ((Schema.ofEntry ("size", { kind := "integer" })).resolve "Disk").result =
      .error (.unknownPrimitive "DiskSize" "integer" "") := rfl
  have unresolved : ¬ (Schema.ofEntry ("size", { kind := "integer" })).Resolves "Disk" := by
    rintro ⟨_, resolved⟩
    cases size.symm.trans resolved
  have failing := (declaration_written_whole_or_not .go ⟨"package store\n", 0⟩ disk distinct).2.1 rfl
  obtain ⟨entry, mem, defect, fails, least, kept, result⟩ :=
    failing ⟨_, List.mem_cons_of_mem _ List.mem_cons_self, unresolved⟩
  refine ⟨distinct, kept, ?_⟩
  rcases List.mem_cons.1 mem with rfl | mem
  · have notLeast : ¬ "users" < "size" := by decide +kernel
    rcases least _ (List.mem_cons_of_mem _ List.mem_cons_self) unresolved with same | before
    · exact absurd (congrArg Prod.fst same) (by decide)
    · exact absurd (Utf8.before_iff_lt.1 before) notLeast
  · obtain rfl := List.mem_singleton.1 mem
    cases size.symm.trans fails
    exact result

end SchemaTypes
