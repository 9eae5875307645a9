import Mathlib.Data.List.Forall2
import SchemaTypes.Proofs.Json.Members

/-!
# What is read of a record

A record that is written as an object takes its fields by name, whatever their order, and passes over unknown
ones; one that is written as a list takes them by position.
-/

namespace SchemaTypes.Json
set_option autoImplicit false

open Ascii Reader

variable {σ : Type}

/-- A field of a record: its name, and what a value makes of the record. -/
structure FieldMeaning (σ : Type) where
  name : String
  read : σ → Value → Outcome σ

/-- A field is read as it is meant. -/
def FieldReader.Follows (reader : FieldReader σ) (field : FieldMeaning σ) : Prop :=
  reader.name = field.name ∧ ∀ record, (reader.read record).Follows (field.read record)

/-- One more member of a record: a field must not have been read before, and an unknown name is passed over. -/
def Partial.take (fields : List (FieldMeaning σ)) (sofar : Partial σ) : String × Value → Outcome (Partial σ)
  | (name, v) =>
    if fields.any (·.name == name) && sofar.seen.contains name then .error (some ⟨.duplicateField name, []⟩)
    else
      match fields.find? (·.name == name) with
      | none => .ok sofar
      | some field =>
        (field.read sofar.record v >>= fun record => pure ⟨record, name :: sofar.seen⟩).within (.key name)

/-- The fields of a record by position; the last ones may be missing. -/
def takeElements (position : Nat) : List (FieldMeaning σ) → List Value → σ → Outcome σ
  | [], [], record => .ok record
  | [], _ :: _, _ => .error (some ⟨.trailingCharacters, []⟩)
  | _ :: _, [], record => .ok record
  | field :: fields, v :: vs, record =>
    (field.read record v).within (.index position) >>= takeElements (position + 1) fields vs

/-- What a record is read of; `none` stands for fields that may not be reached for want of a level. -/
def Value.asRecord (name : String) (fields : Option (List (FieldMeaning σ))) (empty : σ) : Value → Outcome σ
  | .object members =>
    match fields with
    | none => .error (some ⟨.nestingTooDeep, []⟩)
    | some fields => members.foldlM (Partial.take fields) ⟨empty, []⟩ >>= fun filled => pure filled.record
  | .list elements =>
    match fields with
    | none => .error (some ⟨.nestingTooDeep, []⟩)
    | some fields => takeElements 0 fields elements empty
  | v => .error (v.misfit (.record name))

theorem Value.asRecord_eq_misfit {name : String} {fields : Option (List (FieldMeaning σ))} {empty : σ} {v : Value}
    {b : UInt8} (leads : v.Leads b) (noObject : b ≠ openBrace) (noList : b ≠ openBracket) :
    v.asRecord name fields empty = .error (v.misfit (.record name)) := by
  cases v with
  | object => exact absurd leads noObject
  | list => exact absurd leads noList
  | _ => rfl

section fields

variable {readers : List (FieldReader σ)} {fields : List (FieldMeaning σ)}

theorem any_name (follows : List.Forall₂ FieldReader.Follows readers fields) (name : String) :
    readers.any (·.name == name) = fields.any (·.name == name) := by
  induction follows with
  | nil => rfl
  | cons first _ ih => rw [List.any_cons, List.any_cons, first.1, ih]

theorem find?_name (follows : List.Forall₂ FieldReader.Follows readers fields) (name : String) :
    Option.Rel FieldReader.Follows (readers.find? (·.name == name)) (fields.find? (·.name == name)) := by
  induction follows with
  | nil => exact .none
  | cons first _ ih =>
    rw [List.find?_cons, List.find?_cons, first.1]
    split
    · exact .some first
    · exact ih

/-- The name of a field that has been read is refused, whatever follows it. -/
theorem run_refuseRepeated {sofar : Partial σ} {name : String}
    (repeated : (readers.any (·.name == name) && sofar.seen.contains name) = true) (s : Bytes) :
    ∃ unread, (refuseRepeated readers sofar name).run s = .error ⟨.duplicateField name, unread, []⟩ := by
  have looked : peekToken.run s = .ok ((s.dropWhile isBlank).head?, s.dropWhile isBlank) := rfl
  rw [refuseRepeated, if_pos repeated, run_bind_ok looked]
  split
  · next closes =>
    obtain ⟨r, text⟩ := List.head?_eq_some_iff.1 closes
    rw [text, run_bind_ok (run_advance _ _), run_failHere]
    exact ⟨_, rfl⟩
  · exact ⟨_, rfl⟩

/-- A member of a record is taken, refused for being there twice, or passed over. -/
theorem entryFollows_take (follows : List.Forall₂ FieldReader.Follows readers fields) :
    EntryFollows (refuseRepeated readers) (readField readers) (Partial.take fields) := by
  intro sofar member s r spelled
  obtain ⟨name, v⟩ := member
  cases spelled with
  | intro chars behind before spelled =>
    rw [Partial.take, ← any_name follows]
    split
    · next repeated =>
      obtain ⟨unread, refused⟩ := run_refuseRepeated repeated _
      rw [run_entry_refused chars refused]
      exact .refused _ _ _
    · next new =>
      have accepted (t : Bytes) : (refuseRepeated readers sofar name).run t = .ok ((), t) := by
        rw [refuseRepeated, if_neg new, run_pure]
      rw [run_entry chars (accepted _) behind, readField]
      have found := find?_name follows name
      generalize readers.find? _ = reader at found ⊢
      generalize fields.find? _ = field at found ⊢
      cases found with
      | none =>
        dsimp only
        rw [run_within, run_bind_ok (spelled.run_skipValue before), run_pure]
        exact .read sofar
      | some field =>
        exact ((field.2 sofar.record).bind_pure (Partial.mk · (name :: sofar.seen)) before spelled).within _

end fields

/-- The elements of a list from `position` on, of which the first ones have been read. -/
inductive Further (position : Nat) : List Value → Bytes → Bytes → Prop where
  | done {s r : Bytes} (behind : Blanks s (closeBracket :: r)) : Further position [] s r
  | first {vs : List Value} {s r : Bytes} (start : position = 0) (elements : SpellsElements vs s r) :
    Further position vs s r
  | next {vs : List Value} {s w r : Bytes} (started : position ≠ 0) (behind : Blanks s (comma :: w))
      (elements : SpellsElements vs w r) : Further position vs s r

section elements

variable {position : Nat} {v : Value} {vs : List Value} {s r : Bytes}

/-- Elements are a first one and further ones. -/
theorem SpellsElements.split (elements : SpellsElements (v :: vs) s r) (position : Nat) :
    ∃ t u, Blanks s t ∧ Spells v t u ∧ Further (position + 1) vs u r := by
  cases elements with
  | last before value behind => exact ⟨_, _, before, value, .done behind⟩
  | more before value behind more => exact ⟨_, _, before, value, .next (Nat.succ_ne_zero _) behind more⟩

/-- No further element is found at the end of a list. -/
theorem Further.run_anotherElement_nil (further : Further position [] s r) :
    (anotherElement position).run s = .ok (false, closeBracket :: r) := by
  cases further with
  | done behind =>
    rw [anotherElement, run_bind_ok (behind.run_peekToken rfl)]
    rfl
  | first _ elements => cases elements
  | next _ _ elements => cases elements

theorem Further.run_anotherElement_cons (further : Further position (v :: vs) s r) :
    ∃ t u, (anotherElement position).run s = .ok (true, t) ∧ Spells v t u ∧ Further (position + 1) vs u r := by
  cases further with
  | first start elements =>
    obtain ⟨_, u, before, value, rest⟩ := elements.split position
    obtain ⟨b, t, rfl, leads⟩ := value.leads
    refine ⟨_, u, ?_, value, rest⟩
    rw [anotherElement, run_bind_ok (before.run_peekToken leads.visible)]
    dsimp only
    rw [if_neg (leads.ne (by decide)), if_pos start, run_pure]
  | next started behind elements =>
    obtain ⟨_, u, before, value, rest⟩ := elements.split position
    obtain ⟨b, t, rfl, leads⟩ := value.leads
    refine ⟨_, u, ?_, value, rest⟩
    rw [anotherElement, run_bind_ok (behind.run_peekToken rfl)]
    dsimp only
    rw [if_neg (by decide), if_neg started, if_pos rfl, run_bind_ok (run_advance _ _),
      run_bind_ok (before.run_peekToken leads.visible)]
    dsimp only
    rw [if_neg (leads.ne (by decide)), run_pure]

theorem Further.run_closeList_nil (further : Further position [] s r) : closeList.run s = .ok ((), r) := by
  cases further with
  | done behind =>
    rw [closeList, run_bind_ok (behind.run_peekToken rfl)]
    rfl
  | first _ elements => cases elements
  | next _ _ elements => cases elements

/-- A list with an element too many is refused at its end. -/
theorem Further.run_closeList_cons (further : Further position (v :: vs) s r) :
    ∃ unread, closeList.run s = .error ⟨.trailingCharacters, unread, []⟩ := by
  cases further with
  | first start elements =>
    obtain ⟨_, u, before, value, rest⟩ := elements.split position
    obtain ⟨b, t, rfl, leads⟩ := value.leads
    rw [closeList, run_bind_ok (before.run_peekToken leads.visible)]
    dsimp only
    rw [if_neg (leads.ne (by decide)), if_neg (leads.ne (by decide)), run_failAtNext]
    exact ⟨_, rfl⟩
  | next started behind elements =>
    obtain ⟨_, u, before, value, rest⟩ := elements.split position
    obtain ⟨b, t, rfl, leads⟩ := value.leads
    have noEnd : (some b : Option UInt8) ≠ some closeBracket := fun same =>
      leads.ne (by decide) (Option.some.inj same)
    rw [closeList, run_bind_ok (behind.run_peekToken rfl)]
    dsimp only
    rw [if_neg (by decide), if_pos rfl, run_bind_ok (run_advance _ _),
      run_bind_ok (before.run_peekToken leads.visible), if_neg noEnd, run_failAtNext]
    exact ⟨_, rfl⟩

/-- The fields of a record are taken from a list by position, and the list has to end behind the last one. -/
theorem Further.meets_elements {readers : List (FieldReader σ)} {fields : List (FieldMeaning σ)}
    (follows : List.Forall₂ FieldReader.Follows readers fields) (further : Further position vs s r) (record : σ) :
    Meets r ((do let filled ← elements position readers record; closeList; pure filled : Reader σ).run s)
      (takeElements position fields vs record) := by
  induction follows generalizing position vs s record with
  | nil =>
    rw [elements, run_bind_ok (run_pure _ _)]
    cases vs with
    | nil =>
      rw [run_bind_ok further.run_closeList_nil]
      exact .read record
    | cons v vs =>
      obtain ⟨unread, failed⟩ := further.run_closeList_cons
      rw [run_bind_error failed]
      exact .refused _ _ _
  | cons field _ ih =>
    rw [elements, run_bind_bind]
    cases vs with
    | nil =>
      -- Fields that are missing at the end of the list keep their defaults.
      have closed : closeList.run (closeBracket :: r) = .ok ((), r) := rfl
      rw [run_bind_ok further.run_anotherElement_nil, if_neg Bool.false_ne_true, run_bind_ok (run_pure _ _),
        run_bind_ok closed]
      exact .read record
    | cons v vs =>
      obtain ⟨t, u, another, value, rest⟩ := further.run_anotherElement_cons
      rw [run_bind_ok another, if_pos rfl, run_bind_bind]
      exact (((field.2 record) (.none _) value).within _).bind fun record => ih rest record

end elements

/-- **A record is read by name from an object and by position from a list**, whichever way it is spelled. -/
theorem record_follows {readers : Option (List (FieldReader σ))} {fields : Option (List (FieldMeaning σ))}
    (follows : Option.Rel (List.Forall₂ FieldReader.Follows) readers fields) (name : String) (empty : σ) :
    (Json.record name readers empty).Follows (Value.asRecord name fields empty) := by
  intro v s t r before spelled
  obtain ⟨b, t, rfl, leads⟩ := spelled.leads
  unfold Json.record
  rw [run_bind_ok (before.run_peekToken leads.visible)]
  dsimp only
  by_cases isObject : b = openBrace
  · subst isObject
    obtain ⟨members, rfl⟩ := leads.eq_object
    rw [if_pos rfl]
    cases follows with
    | none => exact .refused _ _ _
    | some follows =>
      rw [run_bind_ok (run_advance _ _)]
      exact ((entryFollows_take follows).openObject spelled _).bind fun filled => .read _
  rw [if_neg isObject]
  by_cases isList : b = openBracket
  · subst isList
    obtain ⟨elements, rfl⟩ := leads.eq_list
    rw [if_pos rfl]
    cases follows with
    | none => exact .refused _ _ _
    | some follows =>
      have further : Further 0 elements t r := by
        cases spelled with
        | emptyList blanks => exact .done blanks
        | list elements => exact .first rfl elements
      rw [run_bind_ok (run_advance _ _)]
      exact further.meets_elements follows empty
  · rw [if_neg isList, Value.asRecord_eq_misfit leads isObject isList]
    exact spelled.meets_wrongKind leads _

end SchemaTypes.Json
