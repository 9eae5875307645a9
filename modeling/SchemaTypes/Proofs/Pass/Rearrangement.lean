import SchemaTypes.Dialect.Go
import SchemaTypes.Proofs.Pass.SideBySide
import SchemaTypes.Proofs.Rearrangement
import SchemaTypes.Proofs.Sheet

/-!
# Rearranged documents

A document that is rearranged has its roots in another order, and below them properties in another order.
Neither changes what a pass declares or how it ends, except that the refusal of roots which share a name
depends on the order in which they come: it names the first one that repeats another.
-/

namespace SchemaTypes
set_option autoImplicit false

open scoped List

namespace Document

variable {doc other : Document}

/-- Between two rearranged documents stands one with the order of the second and the roots of the first. -/
theorem Rearranged.between (same : doc.Rearranged other) :
    ∃ middle : Document, doc.roots ~ middle.roots ∧
      List.Forall₂ Schema.Rearranged middle.roots other.roots := by
  cases same.schemas with
  | @intro _ entries _ _ moved alike =>
    refine ⟨⟨doc.name, entries⟩, moved.map _, ?_⟩
    unfold roots
    rw [List.forall₂_map_left_iff, List.forall₂_map_right_iff]
    refine alike.imp ?_
    rintro _ _ ⟨alike⟩
    simp only [← alike.id_eq]
    split
    · exact alike.with_id _
    · exact alike

theorem Rearranged.perm_ids (same : doc.Rearranged other) : doc.roots.map (·.id) ~ other.roots.map (·.id) := by
  obtain ⟨middle, moved, alike⟩ := same.between
  have names : middle.roots.map (·.id) = other.roots.map (·.id) := by
    rw [← List.forall₂_eq_eq_eq, List.forall₂_map_left_iff, List.forall₂_map_right_iff]
    exact alike.imp fun _ _ root => root.id_eq
  rw [← names]
  exact moved.map _

/-- **Passes over rearranged documents declare the same**, and end alike. -/
theorem Rearranged.pass (same : doc.Rearranged other) (distinct : (doc.roots.map (·.id)).Nodup) :
    doc.pass.declarations = other.pass.declarations ∧ doc.pass.ending = other.pass.ending := by
  obtain ⟨middle, moved, alike⟩ := same.between
  obtain ⟨declarations, ending⟩ := pass_of_perm moved distinct
  obtain ⟨declarations', ending'⟩ := pass_of_corresponding Schema.Rearranged.correspondence alike
  exact ⟨declarations.trans declarations', ending.trans ending'⟩

/-- Roots that share a name are refused. -/
theorem ending_of_repeated (repeated : ¬(doc.roots.map (·.id)).Nodup) :
    ∃ defect, doc.pass.ending = .error defect := by
  cases seeding : (Agenda.empty.enqueueAll doc.roots).2.result with
  | error defect => exact ⟨defect, (pass_of_refused seeding).1⟩
  | ok => exact absurd (Agenda.fresh_empty.1 (Agenda.result_enqueueAll.1 seeding)) repeated

end Document

/-- **The order of entries never matters.** Documents that differ in nothing else generate the same text, or
both generate none; and where the names of the roots differ from each other, the defects are the same too. -/
theorem generate_rearranged (d : Dialect) {doc other : Document} (same : doc.Rearranged other) :
    ((∃ text, (doc.generate d).result = .ok text ∧ (other.generate d).result = .ok text) ∨
        ∃ defect defect', (doc.generate d).result = .error defect ∧
          (other.generate d).result = .error defect') ∧
      ((doc.roots.map (·.id)).Nodup → (doc.generate d).result = (other.generate d).result) := by
  rw [Document.result_generate, Document.result_generate]
  by_cases distinct : (doc.roots.map (·.id)).Nodup
  · obtain ⟨declarations, ending⟩ := same.pass distinct
    rw [← declarations, ← ending, ← same.name]
    refine ⟨?_, fun _ => rfl⟩
    cases doc.pass.ending with
    | error defect => exact .inr ⟨defect, defect, rfl, rfl⟩
    | ok => exact .inl ⟨_, rfl, rfl⟩
  · have repeated : ¬(other.roots.map (·.id)).Nodup := by rwa [← same.perm_ids.nodup_iff]
    obtain ⟨defect, failed⟩ := Document.ending_of_repeated distinct
    obtain ⟨defect', failed'⟩ := Document.ending_of_repeated repeated
    rw [failed, failed']
    exact ⟨.inr ⟨defect, defect', rfl, rfl⟩, fun distinct' => absurd distinct' distinct⟩

/-- A sequence of objects with the given properties. -/
def sequenceOf (properties : List (String × Schema)) : Schema where
  kind := "array"
  items := some (.struct "" properties)

/-- A shop, written in one order. -/
def shop : Document where
  name := "shop"
  schemas := [
    ("Order", .struct "" [
      ("lines", sequenceOf [("item", { kind := "string" }), ("gift", { kind := "boolean" })]),
      ("note", { kind := "string" })]),
    ("Customer", .struct "" [])]

/-- The same shop, written in another order. -/
def shopRearranged : Document where
  name := "shop"
  schemas := [
    ("Customer", .struct "" []),
    ("Order", .struct "" [
      ("note", { kind := "string" }),
      ("lines", sequenceOf [("gift", { kind := "boolean" }), ("item", { kind := "string" })])])]

theorem shop_rearranged : shop.Rearranged shopRearranged := by
  have plain (key kind : String) : EntryRearranged (key, { kind := kind }) (key, { kind := kind }) :=
    .intro (.intro rfl rfl rfl rfl .none .none .none)
  have lines {xs ys : List (String × Schema)} (alike : EntriesRearranged xs ys) :
      EntryRearranged ("lines", sequenceOf xs) ("lines", sequenceOf ys) :=
    .intro (.intro rfl rfl rfl rfl (.some (.struct "" alike)) .none .none)
  have properties := EntriesRearranged.intro (by decide) (.swap ..)
    (.cons (plain "gift" "boolean") (.cons (plain "item" "string") .nil))
  have order := Schema.Rearranged.struct "" (.intro (by decide) (.swap ..)
    (.cons (plain "note" "string") (.cons (lines properties) .nil)))
  have customer := Schema.Rearranged.struct "" (.intro (by decide) (.refl _) .nil)
  exact ⟨rfl, .intro (by decide) (.swap ..) (.cons (.intro customer) (.cons (.intro order) .nil))⟩

theorem shop_generate_rearranged :
    shop.Rearranged shopRearranged ∧ (shop.roots.map (·.id)).Nodup ∧
      (shop.generate .go).result = (shopRearranged.generate .go).result := by
  have distinct : (shop.roots.map (·.id)).Nodup := by decide
  exact ⟨shop_rearranged, distinct, (generate_rearranged .go shop_rearranged).2 distinct⟩

end SchemaTypes
