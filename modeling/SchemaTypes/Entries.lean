/-!
# Entries

Values under distinct keys, in an order of their own.
-/

namespace SchemaTypes
set_option autoImplicit false

variable {α : Type}

/-- Puts a value under a key: a key that is there keeps its place and takes the new value. -/
def assign (key : String) (value : α) : List (String × α) → List (String × α)
  | [] => [(key, value)]
  | (k, v) :: more => if k = key then (k, value) :: more else (k, v) :: assign key value more

/-- Entries in ascending order of their keys. -/
def sortedByKey (entries : List (String × α)) : List (String × α) :=
  entries.mergeSort fun a b => a.1 ≤ b.1

@[simp] theorem mem_sortedByKey {entry : String × α} {entries : List (String × α)} :
    entry ∈ sortedByKey entries ↔ entry ∈ entries :=
  List.mem_mergeSort

end SchemaTypes
