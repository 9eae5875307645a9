import SchemaTypes.Resolution
import SchemaTypes.Declaration

/-!
# Counting the nodes of a schema

Declaring a schema lifts out fewer nodes than the schema has: its own node is used up, and what a
property lifts out is part of that property. A run that declares what was lifted out therefore ends.
-/

namespace SchemaTypes
set_option autoImplicit false

namespace Schema

mutual

/-- How many nodes a schema has, itself included. -/
def size : Schema → Nat
  | ⟨_, _, _, _, items, additionalProperties, properties⟩ =>
    1 + childSize items + childSize additionalProperties + propertiesSize properties

/-- The nodes of a child that may be absent. -/
def childSize : Option Schema → Nat
  | none => 0
  | some s => s.size

/-- The nodes of properties that may be absent. -/
def propertiesSize : Option (List (String × Schema)) → Nat
  | none => 0
  | some entries => entriesSize entries

/-- The nodes of all entries. -/
def entriesSize : List (String × Schema) → Nat
  | [] => 0
  | entry :: more => entrySize entry + entriesSize more

/-- The nodes of one entry. -/
def entrySize : String × Schema → Nat
  | (_, s) => s.size

end

/-- The nodes of several schemas. -/
def totalSize : List Schema → Nat
  | [] => 0
  | s :: more => s.size + totalSize more

@[simp] theorem size_with_id (s : Schema) (id : String) : size { s with id := id } = s.size := by
  cases s
  simp [size]

theorem entriesSize_perm {xs ys : List (String × Schema)} (same : xs.Perm ys) :
    entriesSize xs = entriesSize ys := by
  induction same with
  | nil => rfl
  | cons entry _ ih => rw [entriesSize, entriesSize, ih]
  | swap a b more =>
    simp only [entriesSize]
    omega
  | trans _ _ ih ih' => exact ih.trans ih'

@[simp] theorem size_struct (id : String) (properties : List (String × Schema)) :
    (struct id properties).size = 1 + entriesSize properties := by
  simp [struct, size, childSize, propertiesSize]

@[simp] theorem totalSize_append (xs ys : List Schema) :
    totalSize (xs ++ ys) = totalSize xs + totalSize ys := by
  induction xs with
  | nil => simp [totalSize]
  | cons s more ih =>
    simp only [List.cons_append, totalSize, ih]
    omega

end Schema

/-- The nodes of the schema a resolution lifts out. -/
def Resolution.hoistedSize (r : Resolution) : Nat :=
  Schema.totalSize r.hoisted.toList

@[simp] theorem Resolution.hoistedSize_none (type : TypeExpr) :
    (Resolution.mk type none).hoistedSize = 0 := rfl

@[simp] theorem Resolution.hoistedSize_some (type : TypeExpr) (s : Schema) :
    (Resolution.mk type (some s)).hoistedSize = s.size := by
  simp [hoistedSize, Schema.totalSize]

/-- What a schema lifts out has no more nodes than the schema. -/
theorem Schema.hoistedSize_resolve_le {path : String} {s : Schema} {r : Resolution}
    (resolved : (s.resolve path).result = .ok r) : r.hoistedSize ≤ s.size := by
  fun_induction Schema.resolve path s generalizing r with
  | case1 =>
    cases resolved
    simp
  | case2 =>
    rename_i ih
    obtain ⟨_, _, rest⟩ := Traced.result_bind_eq_ok.1 resolved
    obtain ⟨inner, done, same⟩ := Traced.result_bind_eq_ok.1 rest
    cases same
    have bound := ih done
    simp only [size, childSize, Resolution.hoistedSize] at bound ⊢
    omega
  | case3 =>
    obtain ⟨_, _, rest⟩ := Traced.result_bind_eq_ok.1 resolved
    cases rest
    simp only [Resolution.hoistedSize_some, size_struct, size, propertiesSize]
    omega
  | case4 => cases resolved
  | case5 =>
    rename_i ih
    obtain ⟨inner, done, same⟩ := Traced.result_bind_eq_ok.1 resolved
    cases same
    have bound := ih done
    simp only [size, childSize, Resolution.hoistedSize] at bound ⊢
    omega
  | case6 => cases resolved
  | case7 =>
    obtain ⟨_, _, rest⟩ := Traced.result_bind_eq_ok.1 resolved
    cases rest
    simp

/-- What properties lift out has no more nodes than the properties. -/
theorem totalSize_resolveFields_le {owner : String} {entries : List (String × Schema)}
    {fields : List Field} {hoisted : List Schema}
    (resolved : (resolveFields owner entries).result = .ok (fields, hoisted)) :
    Schema.totalSize hoisted ≤ Schema.entriesSize entries := by
  induction entries generalizing fields hoisted with
  | nil =>
    cases resolved
    simp [Schema.totalSize]
  | cons entry more ih =>
    obtain ⟨key, property⟩ := entry
    obtain ⟨first, done, rest⟩ := Traced.result_bind_eq_ok.1 resolved
    obtain ⟨⟨others, below⟩, done', same⟩ := Traced.result_bind_eq_ok.1 rest
    cases same
    have bound := Schema.hoistedSize_resolve_le done
    have bound' := ih done'
    rw [Schema.size_with_id] at bound
    simp only [Schema.totalSize_append, Schema.entriesSize, Schema.entrySize, Resolution.hoistedSize] at *
    omega

/-- Sorting entries keeps their nodes. -/
theorem Schema.entriesSize_sortedByKey (entries : List (String × Schema)) :
    entriesSize (sortedByKey entries) = entriesSize entries :=
  entriesSize_perm (List.mergeSort_perm entries _)

/-- Declaring a schema lifts out fewer nodes than the schema has. -/
theorem Schema.totalSize_declare_lt {s : Schema} {declaration : Declaration} {hoisted : List Schema}
    (declared : s.declare.result = .ok (declaration, hoisted)) : totalSize hoisted < s.size := by
  unfold Schema.declare at declared
  split at declared
  · obtain ⟨⟨fields, below⟩, done, rest⟩ := Traced.result_bind_eq_ok.1 declared
    obtain ⟨_, _, same⟩ := Traced.result_bind_eq_ok.1 rest
    cases same
    have bound := totalSize_resolveFields_le done
    rw [entriesSize_sortedByKey] at bound
    obtain ⟨_, _, _, _, items, additionalProperties, properties⟩ := s
    cases properties <;> simp [size, propertiesSize, entriesSize] at bound ⊢ <;> omega
  · cases declared

end SchemaTypes
