import Mathlib.Data.List.Nodup
import SchemaTypes.Dialect.Go
import SchemaTypes.Proofs.Agenda
import SchemaTypes.Proofs.Pass.Ascending

/-!
# Every name is declared

A field names another declaration of the same run by lifting its schema out, and what is lifted out is on the
agenda until it is declared. So the declarations of a run are the roots and what the fields name, each once:
no name leads nowhere, none is shared, and none is that of a root.
-/

namespace SchemaTypes
set_option autoImplicit false

open scoped List

namespace Agenda

/-- The names declared are those that were pending and those that the fields name. -/
theorem ids_drain_perm (agenda : Agenda) (drained : agenda.drain.ending = .ok ()) :
    agenda.drain.declarations.map (·.id) ~
      agenda.pending.map (·.id) ++ agenda.drain.declarations.flatMap Declaration.named := by
  fun_induction drain agenda with
  | case1 agenda done => simp [popMin_eq_none.1 done]
  | case2 => cases drained
  | case3 => cases drained
  | case4 agenda s rest taken declaration hoisted declared _ queued events accepted later ih =>
    obtain ⟨-, -, rfl, rfl⟩ := Schema.result_declare.1 declared
    have pending := (accepts_enqueueAll accepted).pending.map (·.id)
    rw [List.map_append] at pending
    simp only [(popMin_eq_some taken).1, List.map_cons, List.flatMap_cons, Site.named_declaration]
    refine .cons _ ?_
    calc later.declarations.map (·.id)
      _ ~ queued.1.pending.map (·.id) ++ later.declarations.flatMap Declaration.named := ih drained
      _ ~ (s.site.lifted.map (·.id) ++ rest.pending.map (·.id)) ++
          later.declarations.flatMap Declaration.named := pending.append_right _
      _ ~ (rest.pending.map (·.id) ++ s.site.lifted.map (·.id)) ++
          later.declarations.flatMap Declaration.named := List.perm_append_comm.append_right _
      _ = _ := List.append_assoc ..

/-- What a field names is declared later. -/
theorem declared_after (agenda : Agenda) (drained : agenda.drain.ending = .ok ())
    {before after : List Declaration} {declaration : Declaration}
    (split : agenda.drain.declarations = before ++ declaration :: after) :
    ∀ name ∈ declaration.named, name ∈ after.map (·.id) := by
  fun_induction drain agenda generalizing before with
  | case1 => simp at split
  | case2 => cases drained
  | case3 => cases drained
  | case4 agenda s rest taken first hoisted declared _ queued events accepted later =>
    rename_i ih
    cases before with
    | cons _ before =>
      injection split with _ split
      exact ih drained split
    | nil =>
      injection split with same split
      obtain ⟨-, -, rfl, rfl⟩ := Schema.result_declare.1 declared
      intro name mem
      rw [← same, Site.named_declaration] at mem
      rw [← split, (ids_drain_perm queued.1 drained).mem_iff]
      -- What was just lifted out is pending when the rest is drained.
      have pending := (accepts_enqueueAll accepted).pending.map (·.id)
      rw [List.map_append] at pending
      exact List.mem_append_left _ (pending.mem_iff.2 (List.mem_append_left _ mem))

end Agenda

namespace Document

variable {doc : Document}

theorem ids_perm (done : doc.pass.ending = .ok ()) :
    doc.pass.declarations.map (·.id) ~
      doc.roots.map (·.id) ++ doc.pass.declarations.flatMap Declaration.named := by
  obtain ⟨pending, drained, made⟩ := drained_of_done done
  rw [made]
  exact (doc.seeded.ids_drain_perm drained).trans ((pending.map _).append_right _)

/-- A declaration of a root is named by no field, any other one by exactly one. -/
theorem count_fields_naming (done : doc.pass.ending = .ok ()) {declaration : Declaration}
    (mem : declaration ∈ doc.pass.declarations) :
    (doc.pass.declarations.flatMap (·.fields)).countP (fun field => field.type.named? == some declaration.id) =
      if declaration.id ∈ doc.roots.map (·.id) then 0 else 1 := by
  have all : doc.pass.declarations.flatMap Declaration.named =
      (doc.pass.declarations.flatMap (·.fields)).filterMap fun field => field.type.named? := by
    rw [List.filterMap_flatMap]
    rfl
  have once : (doc.pass.declarations.map (·.id)).count declaration.id = 1 :=
    List.count_eq_one_of_mem doc.distinct_ids (List.mem_map_of_mem mem)
  rw [(ids_perm done).count_eq, List.count_append, all, List.count_filterMap] at once
  split
  · next root =>
    have positive := List.count_pos_iff.2 root
    omega
  · next notRoot =>
    rw [List.count_eq_zero_of_not_mem notRoot] at once
    omega

end Document

/-- **Named declarations are declared once.** After a document is written, the names declared are the roots
and the names in the fields, all different; what a field names comes after the declaration of the field; and
exactly one field names a declaration, unless it is a root, which none names. -/
theorem names_declared_once (d : Dialect) (sheet : Sheet) (doc : Document)
    (written : (sheet.writeDocument d doc).2.result = .ok ()) :
    (sheet.writeDocument d doc).1.text =
        sheet.text ++ d.header doc.name ++ d.spellDeclarations doc.pass.declarations ++ d.footer ∧
      doc.pass.declarations.map (·.id) ~
        doc.roots.map (·.id) ++ doc.pass.declarations.flatMap Declaration.named ∧
      (doc.pass.declarations.map (·.id)).Nodup ∧
      (∀ before declaration after, doc.pass.declarations = before ++ declaration :: after →
        ∀ name ∈ declaration.named, name ∈ after.map (·.id)) ∧
      ∀ declaration ∈ doc.pass.declarations,
        (doc.pass.declarations.flatMap (·.fields)).countP
            (fun field => field.type.named? == some declaration.id) =
          if declaration.id ∈ doc.roots.map (·.id) then 0 else 1 := by
  rw [Sheet.result_writeDocument] at written
  refine ⟨?_, Document.ids_perm written, doc.distinct_ids, ?_, ?_⟩
  · rw [Sheet.text_writeDocument, written]
    rfl
  · intro before declaration after split
    obtain ⟨-, drained, made⟩ := Document.drained_of_done written
    exact doc.seeded.declared_after drained (made ▸ split)
  · intro declaration mem
    exact Document.count_fields_naming written mem

/-- Shelves of boxes: the structs that stand inside have an id of their own, or one that their key replaces. -/
def store : Document where
  name := "store"
  schemas := [
    ("shelf", .struct "" [("boxes", {
      kind := "object", additionalProperties := some (.struct "Box" [("lid", .struct "Cover" [])]) })]),
    ("rack", .struct "Rack" [])]

theorem store_names_declared_once :
    (Sheet.writeDocument .go {} store).2.result = .ok () ∧
      store.pass.declarations.map (·.id) ~
        store.roots.map (·.id) ++ store.pass.declarations.flatMap Declaration.named ∧
      store.pass.declarations.flatMap Declaration.named = ["shelfBoxesBox", "shelfBoxesBoxLid"] := by
  have written : (Sheet.writeDocument .go {} store).2.result = .ok () := by decide +kernel
  have same := (names_declared_once .go {} store written).2.1
  exact ⟨written, same, by decide +kernel⟩

end SchemaTypes
