import Mathlib.Tactic.SplitIfs
import SchemaTypes.Proofs.Json.Spelling
import SchemaTypes.Proofs.Text.Utf8

/-!
# The compact text spells its value

The text that is written for a value is one of the value's spellings, so what is read from every spelling is read
from it.
-/

namespace SchemaTypes.Json
set_option autoImplicit false

open Ascii

variable {r : Bytes}

theorem hexDigit?_hexDigit {n : Nat} (small : n < 16) : hexDigit? (byte (hexDigit n)) = some n := by
  have all : ∀ d : Fin 16, hexDigit? (byte (hexDigit d)) = some d.val := by decide
  exact all ⟨n, small⟩

/-- A control character is spelled by its code unit. -/
theorem spellsUnit_control {n : Nat} (control : n < 0x20) (s : Bytes) :
    SpellsUnit n (zero :: zero :: byte (hexDigit (n / 16)) :: byte (hexDigit (n % 16)) :: s) s := by
  have spelled := SpellsUnit.intro (s := s) (hexDigit?_hexDigit (n := 0) (by decide))
    (hexDigit?_hexDigit (n := 0) (by decide)) (hexDigit?_hexDigit (n := n / 16) (by omega))
    (hexDigit?_hexDigit (n := n % 16) (by omega))
  have value : ((0 * 16 + 0) * 16 + n / 16) * 16 + n % 16 = n := by omega
  rwa [value] at spelled

/-- One character of a written string, in front of the others. -/
theorem SpellsChars.escapedChar {c : Char} {cs : List Char} {s : Bytes} (more : SpellsChars cs s r) :
    SpellsChars (c :: cs) (Utf8.encode (escapedChar c) ++ s) r := by
  unfold Json.escapedChar
  split_ifs with noQuote noBackslash _ _ _ _ _ control
  -- The characters that have a letter of their own.
  iterate 7
    subst c
    exact .letter rfl more
  · have ascii : ∀ d < 16, String.utf8EncodeChar (hexDigit d) = [byte (hexDigit d)] := by decide
    simp only [Utf8.encode_cons, Utf8.encode_nil, ascii (c.toNat / 16) (by omega), ascii (c.toNat % 16) (by omega)]
    exact .unit (spellsUnit_control control s) more
  · rw [Utf8.encode_cons, Utf8.encode_nil, List.append_nil]
    exact .plain (by omega) noQuote noBackslash more

theorem spellsChars_stringChars (cs : List Char) :
    SpellsChars cs (Utf8.encode (cs.flatMap escapedChar ++ ['"']) ++ r) r := by
  induction cs with
  | nil => exact .close r
  | cons c cs ih =>
    rw [List.flatMap_cons, List.append_assoc, Utf8.encode_append, List.append_assoc]
    exact ih.escapedChar

theorem endsNumber_cons {b : UInt8} (ends : isDigit b = false ∧ b ≠ point ∧ b ≠ byte 'e' ∧ b ≠ byte 'E')
    (s : Bytes) : EndsNumber (b :: s) := by
  rintro _ ⟨⟩
  exact ends

mutual

/-- **The compact text of a value spells it**, in front of whatever does not go on with a number. -/
theorem spells_chars : (v : Value) → {r : Bytes} → EndsNumber r → Spells v (Utf8.encode v.chars ++ r) r
  | .null, r, _ => .null r
  | .boolean true, r, _ => .boolean true r
  | .boolean false, r, _ => .boolean false r
  | .number _, _, ends => .number ends
  | .string text, _, _ => .string (spellsChars_stringChars text.toList)
  | .list [], _, _ => .emptyList (.none _)
  | .list (v :: vs), r, _ => by
    rw [Value.chars, List.cons_append, Utf8.encode_cons, Utf8.encode_append, List.append_assoc, List.append_assoc]
    exact .list (spells_elementChars (v :: vs) nofun)
  | .object [], _, _ => .emptyObject (.none _)
  | .object (entry :: members), r, _ => by
    rw [Value.chars, List.cons_append, Utf8.encode_cons, Utf8.encode_append, List.append_assoc, List.append_assoc]
    exact .object (spells_memberChars (entry :: members) nofun)

theorem spells_elementChars : (vs : List Value) → vs ≠ [] → {r : Bytes} →
    SpellsElements vs (Utf8.encode (Value.elementChars vs) ++ closeBracket :: r) r
  | [], some_, _ => absurd rfl some_
  | [v], _, _ => .last (.none _) (spells_chars v (endsNumber_cons (by decide) _)) (.none _)
  | v :: w :: vs, _, r => by
    have more := spells_elementChars (w :: vs) nofun (r := r)
    rw [Value.elementChars, Utf8.encode_append, List.append_assoc]
    · exact .more (.none _) (spells_chars v (endsNumber_cons (b := comma) (by decide) _)) (.none _) more
    · exact nofun

theorem spells_memberChars : (members : List (String × Value)) → members ≠ [] → {r : Bytes} →
    SpellsMembers members (Utf8.encode (Value.memberChars members) ++ closeBrace :: r) r
  | [], some_, _ => absurd rfl some_
  | [entry], _, r => by
    obtain ⟨t, text, member⟩ := spells_member entry (endsNumber_cons (b := closeBrace) (by decide) r)
    rw [Value.memberChars, Utf8.encode_append, List.append_assoc]
    exact .last (text ▸ .none _) member (.none _)
  | entry :: next :: members, _, r => by
    have more := spells_memberChars (next :: members) nofun (r := r)
    obtain ⟨t, text, member⟩ := spells_member entry (endsNumber_cons (b := comma) (by decide)
      (Utf8.encode (Value.memberChars (next :: members)) ++ closeBrace :: r))
    rw [Value.memberChars, Utf8.encode_append, Utf8.encode_cons, Utf8.encode_append, List.append_assoc,
      List.append_assoc]
    · exact .more (text ▸ .none _) member (.none _) more
    · exact nofun

/-- A key is written like a string, and its value behind a colon. -/
theorem spells_member : (entry : String × Value) → {r : Bytes} → EndsNumber r →
    ∃ t, Utf8.encode (stringChars entry.1) ++ colon :: (Utf8.encode entry.2.chars ++ r) = quote :: t ∧
      SpellsMember entry t r
  | (key, v), _, ends =>
    ⟨_, rfl, .intro (spellsChars_stringChars key.toList) (.none _) (.none _) (spells_chars v ends)⟩

end

/-- **The compact text of a value writes it.** -/
theorem writes_compact (v : Value) : Writes v (Utf8.encode v.compact.toList) := by
  have spelled := spells_chars v (r := []) nofun
  rw [List.append_nil] at spelled
  rw [Value.compact, String.toList_ofList]
  exact ⟨_, [], .none _, spelled, .none _⟩

end SchemaTypes.Json
