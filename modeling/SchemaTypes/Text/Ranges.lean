/-!
# Sets of code points as ranges

A character property is a list of closed, ascending code point ranges. Membership stops at the
first range that begins above the character, so common characters are found early.
-/

namespace SchemaTypes.Text
set_option autoImplicit false

/-- Whether `n` lies in one of the closed ranges, which ascend. -/
def inRanges (n : Nat) : List (Nat × Nat) → Bool
  | [] => false
  | (first, last) :: more => first ≤ n && (n ≤ last || inRanges n more)

@[simp] theorem inRanges_nil (n : Nat) : inRanges n [] = false := rfl

/-- A member lies in one of the ranges. -/
theorem exists_of_inRanges {n : Nat} {ranges : List (Nat × Nat)} (h : inRanges n ranges = true) :
    ∃ r ∈ ranges, r.1 ≤ n ∧ n ≤ r.2 := by
  induction ranges with
  | nil => simp at h
  | cons r more ih =>
    simp only [inRanges, Bool.and_eq_true, Bool.or_eq_true, decide_eq_true_eq] at h
    rcases h.2 with last | later
    · exact ⟨r, by simp, h.1, last⟩
    · obtain ⟨r', mem, bounds⟩ := ih later
      exact ⟨r', by simp [mem], bounds⟩

/-- Whether the range `r` lies in one of the ranges, which ascend. -/
def holdsRange (r : Nat × Nat) : List (Nat × Nat) → Bool
  | [] => false
  | (first, last) :: more => first.ble r.1 && (r.2.ble last || holdsRange r more)

theorem inRanges_of_holdsRange {n : Nat} {r : Nat × Nat} {ranges : List (Nat × Nat)}
    (held : holdsRange r ranges = true) (low : r.1 ≤ n) (high : n ≤ r.2) : inRanges n ranges = true := by
  induction ranges with
  | nil => cases held
  | cons s more ih =>
    simp only [holdsRange, inRanges, Bool.and_eq_true, Bool.or_eq_true, decide_eq_true_eq, Nat.ble_eq] at held ⊢
    refine ⟨Nat.le_trans held.1 low, ?_⟩
    rcases held.2 with last | later
    · exact .inl (Nat.le_trans high last)
    · exact .inr (ih later)

/-- Ranges that lie in others, one by one, have no other members. -/
theorem inRanges_of_all {n : Nat} {inner outer : List (Nat × Nat)}
    (all : inner.all (holdsRange · outer) = true) (mem : inRanges n inner = true) : inRanges n outer = true := by
  obtain ⟨r, listed, low, high⟩ := exists_of_inRanges mem
  exact inRanges_of_holdsRange (List.all_eq_true.1 all r listed) low high

end SchemaTypes.Text
