import SchemaTypes.Proofs.Json.Strings

/-!
# Skipping numbers

A number is skipped up to the byte that does not go on with it: its digits before the point, of which a zero
stands alone, its fraction, and its exponent.
-/

namespace SchemaTypes.Json
set_option autoImplicit false

open Ascii Reader

/-- The bytes of digits. -/
def Digits (s : Bytes) : Prop :=
  ∀ b ∈ s, isDigit b = true

theorem isDigit_iff {b : UInt8} : isDigit b = true ↔ 0x30 ≤ b.toNat ∧ b.toNat ≤ 0x39 := by
  simp only [isDigit, Bool.and_eq_true, decide_eq_true_eq, UInt8.le_iff_toNat_le]
  rfl

/-- A decimal digit is one byte, which is a digit. -/
theorem encodeChar_digit {c : Char} (digit : c.isDigit = true) :
    String.utf8EncodeChar c = [byte c] ∧ (byte c).toNat = c.toNat ∧ isDigit (byte c) = true := by
  have range : 0x30 ≤ c.toNat ∧ c.toNat ≤ 0x39 := by
    simp only [Char.isDigit, Bool.and_eq_true, decide_eq_true_eq, UInt32.le_iff_toNat_le] at digit
    exact digit
  have value : (byte c).toNat = c.toNat := by
    rw [byte, UInt8.toNat_ofNat']
    omega
  exact ⟨Utf8.encodeChar_ascii (by omega), value, isDigit_iff.2 (by omega)⟩

theorem digits_encode {cs : List Char} (all : ∀ c ∈ cs, c.isDigit = true) : Digits (Utf8.encode cs) := by
  intro b mem
  obtain ⟨c, memC, mem⟩ := List.mem_flatMap.1 mem
  obtain ⟨bytes, -, digit⟩ := encodeChar_digit (all c memC)
  rw [bytes, List.mem_singleton] at mem
  exact mem ▸ digit

theorem isDigit_of_mem_digitChars {ds : List (Fin 10)} {c : Char} (mem : c ∈ digitChars ds) : c.isDigit = true := by
  obtain ⟨d, _, rfl⟩ := List.mem_map.1 mem
  simp [Nat.isDigit_digitChar]

theorem encode_digitChars (d : Fin 10) (ds : List (Fin 10)) :
    ∃ first more, Utf8.encode (digitChars (d :: ds)) = first :: more := by
  have digit : (Nat.digitChar d).isDigit = true := by simp [Nat.isDigit_digitChar]
  rw [digitChars, List.map_cons, Utf8.encode_cons, (encodeChar_digit digit).1]
  exact ⟨_, _, rfl⟩

/-- The digits of a positive number do not begin with a zero. -/
theorem head_toDigits {n : Nat} (positive : 0 < n) : ∃ c cs, Nat.toDigits 10 n = c :: cs ∧ c ≠ '0' := by
  induction n using Nat.strongRecOn with
  | ind n ih =>
    by_cases small : n < 10
    · refine ⟨_, _, Nat.toDigits_of_lt_base small, ?_⟩
      rw [ne_eq, Nat.digitChar_eq_zero]
      omega
    · obtain ⟨c, cs, front, notZero⟩ := ih (n / 10) (by omega) (by omega)
      refine ⟨c, cs ++ [(n % 10).digitChar], ?_, notZero⟩
      rw [Nat.toDigits_of_base_le (by decide) (by omega), front, List.cons_append]

/-- A whole number is a digit, followed by further ones only if it is not a zero. -/
theorem encode_toDigits (n : Nat) :
    ∃ first more, Utf8.encode (Nat.toDigits 10 n) = first :: more ∧ isDigit first = true ∧ Digits more ∧
      (first = zero → more = []) := by
  have digits : Digits (Utf8.encode (Nat.toDigits 10 n)) :=
    digits_encode fun c => Nat.isDigit_of_mem_toDigits (by decide) (by decide)
  rcases Nat.eq_zero_or_pos n with rfl | positive
  · exact ⟨zero, [], rfl, rfl, by simp [Digits], fun _ => rfl⟩
  · obtain ⟨c, cs, front, notZero⟩ := head_toDigits positive
    have digit : c.isDigit = true :=
      Nat.isDigit_of_mem_toDigits (by decide) (by decide) (front ▸ List.mem_cons_self)
    obtain ⟨bytes, value, isDigit⟩ := encodeChar_digit digit
    have split : Utf8.encode (Nat.toDigits 10 n) = byte c :: Utf8.encode cs := by
      rw [front, Utf8.encode_cons, bytes]
      rfl
    rw [split] at digits ⊢
    refine ⟨_, _, rfl, isDigit, fun b mem => digits b (List.mem_cons_of_mem _ mem), fun same => ?_⟩
    rw [same] at value
    exact absurd (Char.toNat_inj.1 value.symm) notZero

section skipping

variable {ds s r : Bytes}

/-- Digits are taken up to what is none. -/
theorem run_digits (digits : Digits ds) (stop : ∀ b ∈ r.head?, isDigit b = false) :
    Json.digits.run (ds ++ r) = .ok (ds.map digitValue, r) := by
  have front : (ds ++ r).takeWhile isDigit = ds ∧ (ds ++ r).dropWhile isDigit = r := by
    rw [List.takeWhile_append_of_pos digits, List.dropWhile_append_of_pos digits]
    cases r with
    | nil => simp
    | cons b r => simp [stop b rfl]
  rw [Json.digits, run_bind_ok (run_takeWhile _ _), front.1, front.2, run_pure]

theorem run_skipExponent (letter : UInt8) {first : UInt8} {sign more : Bytes} (signs : sign ∈ [[], [plus], [minus]])
    (digit : isDigit first = true) (digits : Digits more) (stop : ∀ b ∈ r.head?, isDigit b = false) :
    skipExponent.run (letter :: (sign ++ first :: (more ++ r))) = .ok ((), r) := by
  have unsigned : first ≠ plus ∧ first ≠ minus := by
    constructor <;> rintro rfl <;> cases digit
  have read := run_digits digits stop
  simp only [List.mem_cons, List.not_mem_nil, or_false] at signs
  unfold skipExponent
  rw [run_bind_ok (run_advance _ _), run_bind_ok (run_peek _)]
  rcases signs with rfl | rfl | rfl <;> simp [run_bind, unsigned, digit, read]

theorem EndsNumber.not_digit (ends : EndsNumber r) : ∀ b ∈ r.head?, isDigit b = false :=
  fun b mem => (ends b mem).1

/-- The bytes of an exponent: its letter, its sign if there is one, and its digits. -/
theorem encode_exponent (e : Exponent) :
    ∃ letter sign first more, Utf8.encode e.chars = letter :: (sign ++ first :: more) ∧
      letter ∈ [byte 'e', byte 'E'] ∧ sign ∈ [[], [plus], [minus]] ∧ isDigit first = true ∧ Digits more := by
  have digits : Digits (Utf8.encode (digitChars (e.first :: e.more))) :=
    digits_encode fun c => isDigit_of_mem_digitChars
  obtain ⟨first, more, front⟩ := encode_digitChars e.first e.more
  rw [front] at digits
  refine ⟨if e.capital then byte 'E' else byte 'e',
    match e.sign with | none => [] | some true => [minus] | some false => [plus], first, more, ?_, ?_, ?_, ?_, ?_⟩
  · rw [← front, Exponent.chars, Utf8.encode_append, Utf8.encode_cons]
    cases e.capital <;> rcases e.sign with _ | _ | _ <;> rfl
  · cases e.capital <;> simp
  · rcases e.sign with _ | _ | _ <;> simp
  · exact digits first List.mem_cons_self
  · exact fun b mem => digits b (List.mem_cons_of_mem _ mem)

/-- The text of an exponent that may be missing. -/
def exponentBytes : Option Exponent → Bytes
  | none => []
  | some e => Utf8.encode e.chars

theorem run_skipExponentIfAny (e : Option Exponent) (ends : EndsNumber r) :
    skipExponentIfAny.run (exponentBytes e ++ r) = .ok ((), r) := by
  unfold skipExponentIfAny
  cases e with
  | none =>
    have no : r.head? ≠ some (byte 'e') ∧ r.head? ≠ some (byte 'E') :=
      ⟨fun same => (ends _ same).2.2.1 rfl, fun same => (ends _ same).2.2.2 rfl⟩
    simp [run_bind, exponentBytes, no]
  | some e =>
    obtain ⟨letter, sign, first, more, bytes, isLetter, signs, digit, digits⟩ := encode_exponent e
    have read := run_skipExponent letter signs digit digits ends.not_digit
    simp only [List.mem_cons, List.not_mem_nil, or_false] at isLetter
    simp only [exponentBytes, bytes, List.cons_append, List.append_assoc]
    rcases isLetter with rfl | rfl <;> simp [run_bind, read]

/-- The text of a fraction that may be missing. -/
def fractionBytes : List (Fin 10) → Bytes
  | [] => []
  | d :: ds => point :: Utf8.encode (digitChars (d :: ds))

theorem encode_literal (n : Literal) :
    Utf8.encode n.chars =
      (if n.negative then [minus] else []) ++ (Utf8.encode (Nat.toDigits 10 n.whole) ++
        (fractionBytes n.fraction ++ exponentBytes n.exponent)) := by
  obtain ⟨negative, whole, fraction, exponent⟩ := n
  simp only [Literal.chars, Utf8.encode_append, List.append_assoc]
  congr 1
  · cases negative <;> rfl
  · congr 2
    · cases fraction <;> rfl
    · cases exponent <;> rfl

/-- Neither an exponent nor a fraction begins with a digit. -/
theorem exponentBytes_not_digit (e : Option Exponent) (ends : EndsNumber r) :
    ∀ b ∈ (exponentBytes e ++ r).head?, isDigit b = false ∧ b ≠ point := by
  cases e with
  | none => exact fun b mem => ⟨(ends b mem).1, (ends b mem).2.1⟩
  | some e =>
    obtain ⟨letter, sign, first, more, bytes, isLetter, -⟩ := encode_exponent e
    intro b mem
    simp only [exponentBytes, bytes, List.cons_append, List.head?_cons] at mem
    simp only [List.mem_cons, List.not_mem_nil, or_false] at isLetter
    rcases isLetter with rfl | rfl <;> cases mem <;> decide

/-- What stands behind the digits of a whole number is skipped: a fraction, if there is one, and an exponent. -/
theorem run_skipFraction (ds : List (Fin 10)) (e : Option Exponent) (ends : EndsNumber r) :
    (do
      if (← peek) = some point then
        advance
        if (← Json.digits).isEmpty then failAtNext .invalidNumber else skipExponentIfAny
      else skipExponentIfAny : Reader Unit).run (fractionBytes ds ++ (exponentBytes e ++ r)) = .ok ((), r) := by
  have behind := exponentBytes_not_digit e ends
  have skipped := run_skipExponentIfAny e ends
  rw [run_bind_ok (run_peek _)]
  cases ds with
  | nil =>
    have noPoint : (exponentBytes e ++ r).head? ≠ some point := fun same => (behind _ same).2 rfl
    rw [fractionBytes, List.nil_append, if_neg noPoint, skipped]
  | cons d ds =>
    obtain ⟨first, more, bytes⟩ := encode_digitChars d ds
    have digits : Digits (Utf8.encode (digitChars (d :: ds))) :=
      digits_encode fun c => isDigit_of_mem_digitChars
    have read := run_digits digits fun b mem => (behind b mem).1
    rw [fractionBytes, List.cons_append, List.head?_cons, if_pos rfl, run_bind_ok (run_advance _ _),
      run_bind_ok read, bytes, List.map_cons, List.isEmpty_cons, if_neg Bool.false_ne_true, skipped]

theorem run_skipNumeralBehind {first : UInt8} {more : Bytes} (ds : List (Fin 10)) (e : Option Exponent)
    (digit : isDigit first = true) (digits : Digits more) (alone : first = zero → more = []) (ends : EndsNumber r) :
    (skipNumeralBehind first).run (more ++ (fractionBytes ds ++ (exponentBytes e ++ r))) = .ok ((), r) := by
  have stop : ∀ b ∈ (fractionBytes ds ++ (exponentBytes e ++ r)).head?, isDigit b = false := by
    cases ds with
    | nil => exact fun b mem => (exponentBytes_not_digit e ends b mem).1
    | cons d ds =>
      rintro b ⟨⟩
      rfl
  have tail := run_skipFraction ds e ends
  unfold skipNumeralBehind
  dsimp only
  rw [digit, if_neg (by decide)]
  by_cases isZero : first = zero
  · obtain rfl := alone isZero
    have none_ : ¬(fractionBytes ds ++ (exponentBytes e ++ r)).head?.any isDigit = true := by
      intro any
      obtain ⟨b, front, digit⟩ := (Option.any_eq_true _ _).1 any
      rw [stop b front] at digit
      cases digit
    rw [if_pos isZero, List.nil_append, run_bind_ok (run_peek _), if_neg none_, tail]
  · rw [if_neg isZero, run_bind_ok (run_digits digits stop), tail]

/-- A number is its first byte, which is a minus sign or a digit, and what is skipped behind that. -/
theorem skip_literal (n : Literal) (ends : EndsNumber r) :
    ∃ first behind, Utf8.encode n.chars ++ r = first :: behind ∧
      ((first = minus ∧ skipNegativeNumeral.run behind = .ok ((), r)) ∨
        (isDigit first = true ∧ (skipNumeralBehind first).run behind = .ok ((), r))) := by
  obtain ⟨first, more, bytes, digit, digits, alone⟩ := encode_toDigits n.whole
  let behind := more ++ (fractionBytes n.fraction ++ (exponentBytes n.exponent ++ r))
  have skipped : (skipNumeralBehind first).run behind = .ok ((), r) :=
    run_skipNumeralBehind n.fraction n.exponent digit digits alone ends
  have text : Utf8.encode n.chars ++ r = (if n.negative then [minus] else []) ++ first :: behind := by
    simp only [encode_literal, bytes, behind, List.cons_append, List.append_assoc]
  rw [text]
  cases n.negative with
  | false => exact ⟨first, behind, rfl, .inr ⟨digit, skipped⟩⟩
  | true =>
    have negative : skipNegativeNumeral.run (first :: behind) = .ok ((), r) := by
      rw [skipNegativeNumeral, run_bind_ok (run_next first behind)]
      exact skipped
    exact ⟨minus, first :: behind, rfl, .inl ⟨rfl, negative⟩⟩

end skipping

end SchemaTypes.Json
