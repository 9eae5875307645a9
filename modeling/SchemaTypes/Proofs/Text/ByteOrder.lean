import SchemaTypes.Text.Utf8

/-!
# The order of bytes

Texts are compared character by character. Comparing the bytes that encode them gives the same order,
since the first byte of a longer encoding is the larger one, and bytes of equally long encodings weigh
what the digits of a number do.
-/

namespace SchemaTypes.Utf8
set_option autoImplicit false

/-- Whether the bytes of `a` come before the bytes of `b`. -/
def Before (a b : String) : Prop :=
  encode a.toList < encode b.toList

/-- Numbers compare as their digits to the base 64 do. -/
theorem digits_lt {m n : Nat} (less : m < n) :
    m / 262144 < n / 262144 ∨ m / 262144 = n / 262144 ∧
      (m / 4096 % 64 < n / 4096 % 64 ∨ m / 4096 % 64 = n / 4096 % 64 ∧
        (m / 64 % 64 < n / 64 % 64 ∨ m / 64 % 64 = n / 64 % 64 ∧ m % 64 < n % 64)) := by
  have fourth (k : Nat) : k / 262144 = k / 4096 / 64 := (Nat.div_div_eq_div_mul k 4096 64).symm
  have third (k : Nat) : k / 4096 = k / 64 / 64 := (Nat.div_div_eq_div_mul k 64 64).symm
  rw [fourth, fourth, third, third]
  omega

/-- The character that comes first has the encoding that comes first, whatever follows either. -/
theorem encodeChar_append_lt {c d : Char} (less : c < d) (xs ys : Bytes) :
    String.utf8EncodeChar c ++ xs < String.utf8EncodeChar d ++ ys := by
  have numbers : c.val.toNat < d.val.toNat := less
  have bound : d.val.toNat < 0x110000 := by
    rcases d.valid with low | ⟨_, high⟩ <;> omega
  unfold String.utf8EncodeChar
  dsimp only
  by_cases long : 0xffff < c.val.toNat
  · rw [if_neg (by omega), if_neg (by omega), if_neg (by omega), if_neg (by omega), if_neg (by omega),
      if_neg (by omega)]
    simp only [List.cons_append, List.cons_lt_cons_iff, UInt8.lt_iff_toNat_lt, ← UInt8.toNat_inj,
      UInt8.toNat_ofNat']
    rcases digits_lt numbers with first | ⟨first, second | ⟨second, third | ⟨third, fourth⟩⟩⟩ <;> omega
  · repeat' split
    all_goals
      simp only [List.cons_append, List.cons_lt_cons_iff, UInt8.lt_iff_toNat_lt, ← UInt8.toNat_inj,
        UInt8.toNat_ofNat']
      omega

theorem encode_lt {cs ds : List Char} (less : cs < ds) : encode cs < encode ds := by
  induction cs generalizing ds with
  | nil =>
    cases ds with
    | nil => exact absurd less (List.not_lt_nil _)
    | cons d ds =>
      show [] < String.utf8EncodeChar d ++ encode ds
      cases first : String.utf8EncodeChar d with
      | nil => exact absurd first String.utf8EncodeChar_ne_nil
      | cons byte more => exact List.nil_lt_cons _ _
  | cons c cs ih =>
    cases ds with
    | nil => exact absurd less (List.not_lt_nil _)
    | cons d ds =>
      rcases List.cons_lt_cons_iff.1 less with first | ⟨rfl, rest⟩
      · exact encodeChar_append_lt first _ _
      · exact List.append_left_lt (ih rest)

/-- **Texts are in the order of their bytes.** -/
theorem before_iff_lt {a b : String} : Before a b ↔ a < b := by
  constructor
  · intro before
    refine String.not_le.1 fun notLess => ?_
    rcases Std.le_iff_lt_or_eq.1 notLess with less | rfl
    · exact List.lt_asymm before (encode_lt less)
    · exact List.lt_irrefl _ before
  · intro less
    exact encode_lt less

end SchemaTypes.Utf8
