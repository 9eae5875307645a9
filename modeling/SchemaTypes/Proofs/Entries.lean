import Mathlib.Data.List.Forall2
import Mathlib.Data.List.Nodup
import SchemaTypes.Entries

/-!
# Entries under distinct keys

Assigning a value keeps the keys distinct. A list that is sorted by a key is determined by its members,
provided that their keys differ; and lists with the same keys one by one are sorted in step.
-/

namespace SchemaTypes
set_option autoImplicit false

open scoped List

variable {α : Type} (key : α → String)

theorem mem_assign {name : String} {value : α} {entries : List (String × α)} {entry : String × α}
    (mem : entry ∈ assign name value entries) : entry = (name, value) ∨ entry ∈ entries := by
  induction entries with
  | nil => exact .inl (List.mem_singleton.1 mem)
  | cons first more ih =>
    simp only [assign] at mem
    split at mem
    · next same =>
      rcases List.mem_cons.1 mem with rfl | mem
      · exact .inl (by rw [same])
      · exact .inr (List.mem_cons_of_mem _ mem)
    · rcases List.mem_cons.1 mem with rfl | mem
      · exact .inr List.mem_cons_self
      · exact (ih mem).imp_right (List.mem_cons_of_mem _)

/-- Keys stay distinct when a value is put under one of them. -/
theorem nodup_assign {name : String} {value : α} {entries : List (String × α)}
    (distinct : (entries.map (·.1)).Nodup) : ((assign name value entries).map (·.1)).Nodup := by
  induction entries with
  | nil => simp [assign]
  | cons first more ih =>
    obtain ⟨new, rest⟩ := List.nodup_cons.1 distinct
    simp only [assign]
    split
    · exact distinct
    · next other =>
      refine List.nodup_cons.2 ⟨?_, ih rest⟩
      intro mem
      obtain ⟨entry, mem, same⟩ := List.mem_map.1 mem
      rcases mem_assign mem with rfl | mem
      · exact other same.symm
      · exact new (same ▸ List.mem_map_of_mem mem)

/-- A new key goes behind the others. -/
theorem assign_of_notMem {name : String} {value : α} {entries : List (String × α)}
    (new : name ∉ entries.map (·.1)) : assign name value entries = entries ++ [(name, value)] := by
  induction entries with
  | nil => rfl
  | cons first more ih =>
    obtain ⟨other, rest⟩ := not_or.1 (List.mem_cons.not.1 new)
    rw [assign, if_neg fun same => other same.symm, ih rest, List.cons_append]

/-- The value under a key is the one that was put there, and other keys keep theirs. -/
theorem lookup_assign (name other : String) (value : α) (entries : List (String × α)) :
    (assign name value entries).lookup other = if other = name then some value else entries.lookup other := by
  induction entries with
  | nil => by_cases same : other = name <;> simp [assign, List.lookup_cons, same, beq_false_of_ne]
  | cons first more ih =>
    obtain ⟨key, old⟩ := first
    rw [assign]
    split
    · next here =>
      subst here
      by_cases same : other = key <;> simp [List.lookup_cons, same, beq_false_of_ne]
    · next apart =>
      rw [List.lookup_cons, List.lookup_cons, ih]
      by_cases same : other = key
      · subst same
        simp [apart]
      · simp [same, beq_false_of_ne]

theorem pairwise_sorted (xs : List α) :
    (xs.mergeSort fun a b => key a ≤ key b).Pairwise fun a b => key a ≤ key b := by
  have sorted : (xs.mergeSort fun a b => key a ≤ key b).Pairwise fun a b => decide (key a ≤ key b) = true := by
    apply List.pairwise_mergeSort
    · intro a b c first second
      simp only [decide_eq_true_eq] at first second ⊢
      exact String.le_trans first second
    · intro a b
      simpa using String.le_total (key a) (key b)
  simpa using sorted

/-- Two orders of the same members, both sorted by a key that tells them apart, are one. -/
theorem eq_of_perm_of_sorted {xs ys : List α} (same : xs ~ ys) (distinct : (xs.map key).Nodup)
    (sorted : xs.Pairwise fun a b => key a ≤ key b) (sorted' : ys.Pairwise fun a b => key a ≤ key b) :
    xs = ys := by
  refine List.Perm.eq_of_pairwise ?_ sorted sorted' same
  intro a b mem mem' le le'
  exact List.inj_on_of_nodup_map distinct mem (same.mem_iff.2 mem') (String.le_antisymm le le')

theorem sortedByKey_perm_self (entries : List (String × α)) : sortedByKey entries ~ entries :=
  List.mergeSort_perm entries _

/-- Distinct keys ascend in sorted entries. -/
theorem ascending_sortedByKey {entries : List (String × α)} (distinct : (entries.map (·.1)).Nodup) :
    (sortedByKey entries).Pairwise fun a b => a.1 < b.1 := by
  have apart : (sortedByKey entries).Pairwise fun a b => a.1 ≠ b.1 :=
    List.pairwise_map.1 (((sortedByKey_perm_self entries).map Prod.fst).nodup_iff.2 distinct)
  have sorted : (sortedByKey entries).Pairwise fun a b => a.1 ≤ b.1 := pairwise_sorted Prod.fst entries
  refine (sorted.and apart).imp fun {a b} both => ?_
  exact String.not_le.1 fun least => both.2 (String.le_antisymm both.1 least)

/-- Under distinct keys, entries are sorted into one order, whichever they were written in. -/
theorem sortedByKey_perm {entries entries' : List (String × α)} (moved : entries ~ entries')
    (distinct : (entries.map (·.1)).Nodup) : sortedByKey entries = sortedByKey entries' := by
  have sorted := List.mergeSort_perm entries fun a b => decide (a.1 ≤ b.1)
  refine eq_of_perm_of_sorted Prod.fst ?_ ?_ (pairwise_sorted Prod.fst _) (pairwise_sorted Prod.fst _)
  · exact sorted.trans (moved.trans (List.mergeSort_perm entries' _).symm)
  · exact (sorted.map Prod.fst).nodup_iff.2 distinct

/-- Entries that correspond one by one, with the same keys, still do so when they are sorted. -/
theorem forall₂_sortedByKey {R : String × α → String × α → Prop} {entries entries' : List (String × α)}
    (keys : ∀ a b, R a b → a.1 = b.1) (alike : List.Forall₂ R entries entries') :
    List.Forall₂ R (sortedByKey entries) (sortedByKey entries') := by
  obtain ⟨same, members⟩ := List.forall₂_iff_zip.1 alike
  -- Both orders are read off one order of the pairs.
  let pairs := (entries.zip entries').mergeSort fun a b => decide (a.1.1 ≤ b.1.1)
  have first : pairs.map Prod.fst = sortedByKey entries := by
    unfold pairs sortedByKey
    rw [List.map_mergeSort, List.map_fst_zip (Nat.le_of_eq same)]
    intro a _ b _
    rfl
  have second : pairs.map Prod.snd = sortedByKey entries' := by
    unfold pairs sortedByKey
    rw [List.map_mergeSort, List.map_snd_zip (Nat.le_of_eq same.symm)]
    intro a memA b memB
    rw [keys _ _ (members memA), keys _ _ (members memB)]
  rw [← first, ← second, List.forall₂_map_left_iff, List.forall₂_map_right_iff, List.forall₂_same]
  intro pair mem
  exact members (List.mem_mergeSort.1 mem)

end SchemaTypes
