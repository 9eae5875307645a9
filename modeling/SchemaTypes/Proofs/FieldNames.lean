import SchemaTypes.Proofs.Dialects

/-!
# When fields of a declaration share an identifier

The properties of a declaration have different keys, but nothing keeps their identifiers apart. Exporting a key,
replacing its foreign characters, putting an `X` in front and setting keywords apart by an underscore may each
take two keys to one identifier. Here stands which keys clash, so that the identifiers of a declaration are
distinct just when no two of its keys clash.
-/

namespace SchemaTypes
set_option autoImplicit false

/-- A change `f` that is made where `p` asks for it, and not asked for again, takes two values to one if they are
the same, or if one of them is the other changed. -/
theorem changed_eq_iff {α : Type} {p : α → Prop} [DecidablePred p] {f : α → α}
    (injective : Function.Injective f) (once : ∀ x, p x → ¬p (f x)) {x y : α} :
    (if p x then f x else x) = (if p y then f y else y) ↔ x = y ∨ p x ∧ y = f x ∨ p y ∧ x = f y := by
  constructor
  · intro same
    by_cases first : p x <;> by_cases second : p y
    · rw [if_pos first, if_pos second] at same
      exact .inl (injective same)
    · rw [if_pos first, if_neg second] at same
      exact .inr (.inl ⟨first, same.symm⟩)
    · rw [if_neg first, if_pos second] at same
      exact .inr (.inr ⟨second, same⟩)
    · rw [if_neg first, if_neg second] at same
      exact .inl same
  · rintro (rfl | ⟨first, rfl⟩ | ⟨second, rfl⟩)
    · rfl
    · rw [if_pos first, if_neg (once x first)]
    · rw [if_pos second, if_neg (once y second)]

/-- The characters of an exported key, with underscores for those that cannot stand in an identifier. -/
def repairedChars (key : String) : List Char :=
  (exported key).toList.map identifierChar

/-- The second key is repaired to the characters of the first, with the `X` that these need in front. -/
def LeadsTo (a b : String) : Prop :=
  needsLead (repairedChars a) = true ∧ repairedChars b = 'X' :: repairedChars a

/-- Keys whose exported names are repaired to one identifier. -/
def SameRepair (a b : String) : Prop :=
  repairedChars a = repairedChars b ∨ LeadsTo a b ∨ LeadsTo b a

/-- The first key is repaired to a keyword, and the second one to this keyword with an underscore. -/
def SetsApart (a b : String) : Prop :=
  fieldIdentifier (exported a) ∈ Dialect.rustKeywords ∧
    fieldIdentifier (exported b) = fieldIdentifier (exported a) ++ "_"

/-- What begins with a letter needs no other one in front. -/
theorem needsLead_lead (chars : List Char) : needsLead ('X' :: chars) = false := by
  have letter : ('X' == '_') = false ∧ Char.isDigit 'X' = false := by decide
  simp [needsLead, letter.1, letter.2]

instance (a b : String) : Decidable (LeadsTo a b) := inferInstanceAs (Decidable (_ ∧ _))
instance (a b : String) : Decidable (SameRepair a b) := inferInstanceAs (Decidable (_ ∨ _ ∨ _))
instance (a b : String) : Decidable (SetsApart a b) := inferInstanceAs (Decidable (_ ∧ _))

/-- **Which keys are repaired to one identifier.** -/
theorem fieldIdentifier_eq_iff {a b : String} :
    fieldIdentifier (exported a) = fieldIdentifier (exported b) ↔ SameRepair a b := by
  have injective : Function.Injective fun chars : List Char => 'X' :: chars := fun _ _ same => (List.cons.inj same).2
  have once (chars : List Char) (_ : needsLead chars = true) : ¬needsLead ('X' :: chars) = true := by
    simp [needsLead_lead]
  rw [fieldIdentifier, fieldIdentifier, String.ofList_inj]
  exact changed_eq_iff (p := fun chars => needsLead chars = true) injective once

namespace Dialect

/-- A keyword with an underscore behind it is no keyword. -/
theorem not_mem_rustKeywords_append (word : String) (keyword : word ∈ rustKeywords) :
    ¬word ++ "_" ∈ rustKeywords := by
  have all : ∀ word ∈ rustKeywords, ¬word ++ "_" ∈ rustKeywords := by decide +kernel
  exact all word keyword

/-- **Which keys have one identifier in Rust.** -/
theorem rustIdentifier_eq_iff {a b : String} :
    rustIdentifier (exported a) = rustIdentifier (exported b) ↔
      SameRepair a b ∨ SetsApart a b ∨ SetsApart b a := by
  have injective : Function.Injective fun word : String => word ++ "_" := fun _ _ => (String.append_left_inj "_").1
  rw [← fieldIdentifier_eq_iff]
  unfold rustIdentifier SetsApart
  exact changed_eq_iff (p := fun word => word ∈ rustKeywords) injective not_mem_rustKeywords_append

end Dialect

/-- Fields are told apart by what is made of their names if no two keys give the same. -/
theorem Document.nodup_names_iff {doc : Document} {declaration : Declaration} {identifier : String → String}
    {Clash : String → String → Prop}
    (clash : ∀ {a b}, identifier (exported a) = identifier (exported b) ↔ Clash a b)
    (declared : declaration ∈ doc.pass.declarations) :
    (declaration.fields.map fun field => identifier field.name).Nodup ↔
      declaration.fields.Pairwise fun f g => ¬Clash f.key g.key := by
  rw [List.Nodup, List.pairwise_map]
  refine List.Pairwise.iff_of_mem fun {f g} memF memG => ?_
  rw [field_name_eq declared memF, field_name_eq declared memG, ← clash]

/-- **When the identifiers of a declaration are distinct**: just when no two keys are repaired to one identifier
and, in Rust, none is repaired to a keyword that another one is set apart to. -/
theorem identifiers_distinct_iff (doc : Document) :
    ∀ declaration ∈ doc.pass.declarations,
      ((declaration.fields.map fun field => Dialect.go.identifier field.name).Nodup ↔
        declaration.fields.Pairwise fun f g => ¬SameRepair f.key g.key) ∧
      ((declaration.fields.map fun field => Dialect.rust.identifier field.name).Nodup ↔
        declaration.fields.Pairwise fun f g =>
          ¬(SameRepair f.key g.key ∨ SetsApart f.key g.key ∨ SetsApart g.key f.key)) := by
  intro declaration declared
  constructor
  · exact Document.nodup_names_iff fieldIdentifier_eq_iff declared
  · exact Document.nodup_names_iff Dialect.rustIdentifier_eq_iff declared

/-- A document of one schema that lifts nothing out declares this schema. -/
theorem Document.pass_of_single (doc : Document) {s : Schema} {declaration : Declaration}
    (root : doc.roots = [s]) (declared : s.declare.result = .ok (declaration, [])) :
    doc.pass.ending = .ok () ∧ doc.pass.declarations = [declaration] := by
  have seeding : (Agenda.empty.enqueueAll doc.roots).2.result = .ok () := by
    rw [root]
    rfl
  have popped : doc.seeded.popMin = some (s, { pending := [], seen := [s.id] }) := by
    unfold seeded
    rw [root]
    rfl
  -- Nothing is lifted out, so that nothing is pending behind the first turn.
  have rest : Agenda.drain { pending := [], seen := [s.id] } = ⟨[], [], .ok ()⟩ := by
    rw [Agenda.drain_eq]
    rfl
  obtain ⟨ending, declarations⟩ := pass_of_accepted seeding
  rw [ending, declarations, Agenda.drain_eq, popped]
  simp only [declared, Agenda.enqueueAll, Traced.result_pure, rest, and_self]

/-- Two entries are put in order. -/
theorem sortedByKey_pair {α : Type} (a b : String × α) :
    sortedByKey [a, b] = if a.1 ≤ b.1 then [a, b] else [b, a] := by
  simp [sortedByKey, List.mergeSort, List.merge]

/-- Properties that are strings make fields of this type, and lift nothing out. -/
theorem resolveFields_strings (owner : String) (keys : List String) :
    (resolveFields owner (keys.map fun key => (key, { kind := "string" }))).result =
      .ok (keys.map fun key => ⟨key, exported key, .primitive .string⟩, []) := by
  induction keys with
  | nil => rfl
  | cons key more ih =>
    have first : (Schema.resolve owner { id := key, kind := "string" }).result = .ok ⟨.primitive .string, none⟩ := rfl
    rw [List.map_cons, resolveFields, Traced.result_bind_eq_ok]
    refine ⟨_, first, ?_⟩
    rw [Traced.result_bind_eq_ok]
    exact ⟨_, ih, rfl⟩

/-- The declaration of a struct whose properties are strings. -/
theorem Schema.declare_strings {s : Schema} (keys : List String) (isStruct : s.isStruct = true)
    (sorted : sortedByKey (s.properties.getD []) = keys.map fun key => (key, { kind := "string" })) :
    s.declare.result = .ok (⟨s.id, keys.map fun key => ⟨key, exported key, .primitive .string⟩⟩, []) := by
  rw [declare, if_pos isStruct, sorted, Traced.result_bind_eq_ok]
  exact ⟨_, resolveFields_strings s.id keys, rfl⟩

/-- A mirror whose two properties are told apart in Go; in Rust, the keyword takes the name of the other one. -/
def mirror : Document where
  name := "hall"
  schemas := [("Mirror", .struct "" [("self", { kind := "string" }), ("self_", { kind := "string" })])]

theorem mirror_identifiers :
    ∃ declaration ∈ mirror.pass.declarations,
      (declaration.fields.map fun field => Dialect.go.identifier field.name).Nodup ∧
        ¬(declaration.fields.map fun field => Dialect.rust.identifier field.name).Nodup := by
  have ascending : "self" ≤ "self_" := by decide +kernel
  obtain ⟨-, made⟩ := mirror.pass_of_single rfl
    (Schema.declare_strings ["self", "self_"] rfl ((sortedByKey_pair _ _).trans (if_pos ascending)))
  have declared := made.symm ▸ List.mem_singleton_self _
  obtain ⟨go, rust⟩ := identifiers_distinct_iff mirror _ declared
  have apart : SetsApart "self" "self_" := by decide +kernel
  refine ⟨_, declared, go.2 (by decide +kernel), fun distinct => ?_⟩
  exact List.rel_of_pairwise_cons (rust.1 distinct) List.mem_cons_self (.inr (.inl apart))

/-- A parcel whose two properties differ in the case of their first character. -/
def parcel : Document where
  name := "post"
  schemas := [("Parcel", .struct "" [("weight", { kind := "string" }), ("Weight", { kind := "string" })])]

/-- **Two fields of a declaration may have one identifier**, in either dialect. -/
theorem parcel_shares_identifier :
    (parcel.generate .go).result =
        .ok "package post\ntype Parcel struct\x7b\n\tWeight string\n\tWeight string\n\x7d\n" ∧
      ∀ d ∈ [Dialect.go, Dialect.rust],
        (∃ text, (parcel.generate d).result = .ok text) ∧
          ∃ declaration ∈ parcel.pass.declarations,
            declaration.fields.map (·.key) = ["Weight", "weight"] ∧
              ¬(declaration.fields.map fun field => d.identifier field.name).Nodup := by
  have descending : ¬"weight" ≤ "Weight" := by decide +kernel
  obtain ⟨ending, made⟩ := parcel.pass_of_single rfl
    (Schema.declare_strings ["Weight", "weight"] rfl ((sortedByKey_pair _ _).trans (if_neg descending)))
  constructor
  · rw [Document.result_generate, ending, made]
    decide +kernel
  · intro d _
    have same : exported "Weight" = exported "weight" := by decide +kernel
    refine ⟨⟨_, by rw [Document.result_generate, ending]; rfl⟩, _, made ▸ List.mem_singleton_self _, rfl, ?_⟩
    exact fun distinct => List.rel_of_pairwise_cons distinct List.mem_cons_self (congrArg d.identifier same)

end SchemaTypes
