import Mathlib.Data.Nat.Digits.Defs
import SchemaTypes.Dialect.Rust

/-!
# Wire names in Rust

A field keeps its key in an attribute, as a string literal. The literal is read by the rules of string literals:
a backslash begins an escape by name or by code point, a quote ends the literal, and every other character stands
for itself. Reading it gives back the key and stops at the quote that was written last, whatever the key has in it.
-/

namespace SchemaTypes
set_option autoImplicit false

namespace Text

/-- The character that an escape by name stands for. -/
def namedEscape? (c : Char) : Option Char :=
  if c = '"' then some '"'
  else if c = '\\' then some '\\'
  else if c = 'n' then some '\n'
  else if c = 'r' then some '\r'
  else if c = 't' then some '\t'
  else if c = '0' then some '\x00'
  else none

/-- The value of a hexadecimal digit of either case. -/
def hexValue? (c : Char) : Option Nat :=
  if '0' ≤ c ∧ c ≤ '9' then some (c.toNat - '0'.toNat)
  else if 'a' ≤ c ∧ c ≤ 'f' then some (c.toNat - 'a'.toNat + 10)
  else if 'A' ≤ c ∧ c ≤ 'F' then some (c.toNat - 'A'.toNat + 10)
  else none

/-- Where the reading of a literal stands. -/
inductive LiteralPhase where
  /-- Between two characters. -/
  | plain
  /-- Behind a backslash. -/
  | escape
  /-- In front of the brace of an escape by code point. -/
  | brace
  /-- Among the digits of a code point, with their value and their number so far. -/
  | digits (value count : Nat)

/-- Reads a literal behind its opening quote: its characters, and what stands behind its closing quote. A code point
has one to six digits and is that of a character. -/
def readCharacters : LiteralPhase → List Char → Option (List Char × List Char)
  | _, [] => none
  | .plain, c :: rest =>
    if c = '"' then some ([], rest)
    else if c = '\\' then readCharacters .escape rest
    else (readCharacters .plain rest).map (Prod.map (c :: ·) id)
  | .escape, c :: rest =>
    if c = 'u' then readCharacters .brace rest
    else (namedEscape? c).bind fun named => (readCharacters .plain rest).map (Prod.map (named :: ·) id)
  | .brace, c :: rest => if c = '\x7b' then readCharacters (.digits 0 0) rest else none
  | .digits value count, c :: rest =>
    if c = '\x7d' then
      if 0 < count ∧ value.isValidChar then
        (readCharacters .plain rest).map (Prod.map (Char.ofNat value :: ·) id)
      else none
    else
      (hexValue? c).bind fun digit =>
        if count < 6 then readCharacters (.digits (value * 16 + digit) (count + 1)) rest else none

/-- Reads a literal at the front of a text: what it stands for, and the text behind it. -/
def readLiteral : List Char → Option (String × List Char)
  | '"' :: rest => (readCharacters .plain rest).map (Prod.map String.ofList id)
  | _ => none

/-- Whether what stands behind these characters of a literal is escaped: a backslash escapes the next character,
unless it is escaped itself. -/
def escapesNext (before : List Char) : Bool :=
  before.foldl (fun escaped c => c == '\\' && !escaped) false

theorem hexValue?_digitChar : ∀ d < 16, hexValue? (Nat.digitChar d) = some d := by decide

theorem digitChar_ne : ∀ d < 16, Nat.digitChar d ≠ '\x7d' ∧ Nat.digitChar d ≠ '"' ∧ Nat.digitChar d ≠ '\\' ∧
    Nat.digitChar d ≠ '\n' ∧ Nat.digitChar d ≠ '\r' := by decide

/-- The digits of a number that is written with six of them at most are read as the number. -/
theorem readCharacters_toDigits (n : Nat) (small : n < 16 ^ 6) (rest : List Char) :
    readCharacters (.digits 0 0) (Nat.toDigits 16 n ++ rest) =
      readCharacters (.digits n (Nat.toDigits 16 n).length) rest := by
  have one (value count d : Nat) (digit : d < 16) (more : count < 6) (rest : List Char) :
      readCharacters (.digits value count) (Nat.digitChar d :: rest) =
        readCharacters (.digits (value * 16 + d) (count + 1)) rest := by
    rw [readCharacters, if_neg (digitChar_ne d digit).1, hexValue?_digitChar d digit, Option.bind_some, if_pos more]
  induction n using Nat.strongRecOn generalizing rest with
  | ind n ih =>
    by_cases below : n < 16
    · rw [Nat.toDigits_of_lt_base below, List.singleton_append, one 0 0 n below (by decide), Nat.zero_mul, Nat.zero_add]
      rfl
    · have front : (Nat.toDigits 16 (n / 16)).length ≤ 5 :=
        (Nat.length_toDigits_le_iff (by decide) (by decide)).2 (by omega)
      rw [Nat.toDigits_of_base_le (by decide) (by omega), List.append_assoc, List.singleton_append,
        ih (n / 16) (by omega) (by omega), one _ _ _ (Nat.mod_lt _ (by decide)) (by omega), List.length_append]
      congr 2
      omega

/-- A character written by its code point is read back. -/
theorem readCharacters_codePointEscape (c : Char) (rest : List Char) :
    readCharacters .plain (codePointEscape c ++ rest) =
      (readCharacters .plain rest).map (Prod.map (c :: ·) id) := by
  have valid : c.toNat.isValidChar := c.valid
  have small : c.toNat < 16 ^ 6 := by
    rcases valid with low | ⟨_, high⟩ <;> omega
  have some_ : 0 < (Nat.toDigits 16 c.toNat).length := Nat.length_toDigits_pos
  rw [codePointEscape, List.append_assoc, List.append_assoc]
  show readCharacters (.digits 0 0) (Nat.toDigits 16 c.toNat ++ '\x7d' :: rest) = _
  rw [readCharacters_toDigits _ small, readCharacters, if_pos rfl, if_pos ⟨some_, valid⟩, Char.ofNat_toNat]

/-- The ways a character is written in a literal. -/
inductive Written (c : Char) : List Char → Prop where
  | named {letter : Char} (stands : namedEscape? letter = some c) : Written c ['\\', letter]
  | codePoint : Written c (codePointEscape c)
  | itself (other : c ≠ '"' ∧ c ≠ '\\' ∧ c ≠ '\n' ∧ c ≠ '\r') : Written c [c]

theorem written_escaped (c : Char) : Written c (escaped c) := by
  unfold escaped
  split
  · next quote => exact .named (by rw [quote]; rfl)
  · next noQuote =>
    split
    · next backslash => exact .named (by rw [backslash]; rfl)
    · next noBackslash =>
      split
      · next null => exact .named (by rw [null]; rfl)
      · split
        · next tab => exact .named (by rw [tab]; rfl)
        · split
          · next carriageReturn => exact .named (by rw [carriageReturn]; rfl)
          · next noReturn =>
            split
            · next lineFeed => exact .named (by rw [lineFeed]; rfl)
            · next noLineFeed =>
              split
              · exact .codePoint
              · exact .itself ⟨noQuote, noBackslash, noLineFeed, noReturn⟩

/-- No escape by name has a line break behind its backslash, or the letter of a code point. -/
theorem named_ne {letter c : Char} (stands : namedEscape? letter = some c) :
    letter ≠ 'u' ∧ letter ≠ '\n' ∧ letter ≠ '\r' := by
  refine ⟨?_, ?_, ?_⟩ <;> rintro rfl <;> cases stands

/-- **What a character is written as is read as the character.** -/
theorem Written.read {c : Char} {cs : List Char} (written : Written c cs) (rest : List Char) :
    readCharacters .plain (cs ++ rest) = (readCharacters .plain rest).map (Prod.map (c :: ·) id) := by
  cases written with
  | @named letter stands =>
    show readCharacters .escape (letter :: rest) = _
    rw [readCharacters, if_neg (named_ne stands).1, stands, Option.bind_some]
  | codePoint => exact readCharacters_codePointEscape c rest
  | itself other => rw [List.singleton_append, readCharacters, if_neg other.1, if_neg other.2.1]

theorem readCharacters_flatMap (cs rest : List Char) :
    readCharacters .plain (cs.flatMap escaped ++ '"' :: rest) = some (cs, rest) := by
  induction cs with
  | nil => rfl
  | cons c more ih =>
    rw [List.flatMap_cons, List.append_assoc, (written_escaped c).read, ih]
    rfl

/-- **A quoted text is read back**, and nothing of what stands behind it. -/
theorem readLiteral_quoted (s : String) (rest : List Char) :
    readLiteral ((quoted s).toList ++ rest) = some (s, rest) := by
  have text : (quoted s).toList ++ rest = '"' :: (s.toList.flatMap escaped ++ '"' :: rest) := by simp [quoted]
  rw [text, readLiteral, readCharacters_flatMap, Option.map_some, Prod.map_apply, String.ofList_toList, id]

/-- Characters inside a literal: no line ends among them, each quote is escaped, and the last one escapes nothing. -/
structure Enclosed (cs : List Char) : Prop where
  oneLine : ∀ c ∈ cs, c ≠ '\n' ∧ c ≠ '\r'
  quotes : ∀ before after, cs = before ++ '"' :: after → escapesNext before = true
  complete : escapesNext cs = false

theorem escapesNext_append {xs : List Char} (complete : escapesNext xs = false) (ys : List Char) :
    escapesNext (xs ++ ys) = escapesNext ys := by
  have start : xs.foldl (fun escaped c => c == '\\' && !escaped) false = false := complete
  rw [escapesNext, List.foldl_append, start, escapesNext]

theorem Enclosed.nil : Enclosed [] :=
  ⟨by simp, by simp, rfl⟩

theorem Enclosed.append {xs ys : List Char} (first : Enclosed xs) (second : Enclosed ys) : Enclosed (xs ++ ys) := by
  refine ⟨?_, ?_, ?_⟩
  · exact List.forall_mem_append.2 ⟨first.oneLine, second.oneLine⟩
  · intro before after split
    rcases List.append_eq_append_iff.1 split with ⟨more, rfl, behind⟩ | ⟨more, inside, behind⟩
    · rw [escapesNext_append first.complete]
      exact second.quotes more after behind
    · cases more with
      | nil =>
        rw [List.append_nil] at inside
        rw [← inside, first.complete]
        exact absurd (second.quotes [] after behind.symm) (by decide)
      | cons c more =>
        obtain ⟨rfl, -⟩ := List.cons.inj behind
        exact first.quotes before more inside
  · rw [escapesNext_append first.complete, second.complete]

/-- A character that is none of those with a meaning of their own. -/
theorem Enclosed.singleton {c : Char} (other : c ≠ '"' ∧ c ≠ '\\' ∧ c ≠ '\n' ∧ c ≠ '\r') : Enclosed [c] := by
  obtain ⟨noQuote, noBackslash, noLineFeed, noReturn⟩ := other
  refine ⟨by simp [noLineFeed, noReturn], ?_, by simp [escapesNext, noBackslash]⟩
  intro before after split
  cases before with
  | nil => exact absurd (List.cons.inj split).1 noQuote
  | cons => simp at split

theorem Enclosed.of_forall {cs : List Char} (others : ∀ c ∈ cs, c ≠ '"' ∧ c ≠ '\\' ∧ c ≠ '\n' ∧ c ≠ '\r') :
    Enclosed cs := by
  induction cs with
  | nil => exact .nil
  | cons c more ih =>
    exact (Enclosed.singleton (others c List.mem_cons_self)).append
      (ih fun d mem => others d (List.mem_cons_of_mem _ mem))

/-- A backslash with the character that it escapes. -/
theorem Enclosed.escape {c : Char} (oneLine : c ≠ '\n' ∧ c ≠ '\r') : Enclosed ['\\', c] := by
  refine ⟨by simp [oneLine], ?_, by simp [escapesNext]⟩
  intro before after split
  match before, split with
  | [], split => exact absurd (List.cons.inj split).1 (by decide)
  | [_], split => cases split; rfl
  | _ :: _ :: _, split => simp at split

theorem mem_toDigits_sixteen {n : Nat} {c : Char} (mem : c ∈ Nat.toDigits 16 n) :
    ∃ d < 16, c = Nat.digitChar d := by
  induction n using Nat.strongRecOn with
  | ind n ih =>
    by_cases below : n < 16
    · rw [Nat.toDigits_of_lt_base below, List.mem_singleton] at mem
      exact ⟨n, below, mem⟩
    · rw [Nat.toDigits_of_base_le (by decide) (by omega), List.mem_append, List.mem_singleton] at mem
      rcases mem with front | rfl
      · exact ih (n / 16) (by omega) front
      · exact ⟨n % 16, Nat.mod_lt _ (by decide), rfl⟩

theorem enclosed_codePointEscape (c : Char) : Enclosed (codePointEscape c) := by
  have digits : Enclosed (Nat.toDigits 16 c.toNat) := by
    refine .of_forall fun d mem => ?_
    obtain ⟨value, digit, rfl⟩ := mem_toDigits_sixteen mem
    exact (digitChar_ne value digit).2
  have opening : Enclosed ['\\', 'u'] := .escape (by decide)
  have brace : Enclosed ['\x7b'] := .singleton (by decide)
  exact ((opening.append brace).append digits).append (.singleton (by decide))

/-- What a character is written as stays inside the literal. -/
theorem Written.enclosed {c : Char} {cs : List Char} (written : Written c cs) : Enclosed cs := by
  cases written with
  | named stands => exact .escape (named_ne stands).2
  | codePoint => exact enclosed_codePointEscape c
  | itself other => exact .singleton other

theorem enclosed_flatMap (cs : List Char) : Enclosed (cs.flatMap escaped) := by
  induction cs with
  | nil => exact .nil
  | cons c more ih => exact (written_escaped c).enclosed.append ih

/-- A quoted text has one line. -/
theorem oneLine_quoted (s : String) : ∀ c ∈ (quoted s).toList, c ≠ '\n' := by
  have inside := (enclosed_flatMap s.toList).oneLine
  intro c mem
  simp only [quoted, String.toList_ofList, List.mem_append, List.mem_cons, List.not_mem_nil, or_false] at mem
  rcases mem with (rfl | mem) | rfl
  · decide
  · exact (inside c mem).1
  · decide

end Text

namespace Dialect

open Text

/-- The attribute of a field up to the literal of its key. -/
def renameOpening : List Char :=
  "#[serde(rename = ".toList

/-- The attribute of a field behind the literal of its key. -/
def renameClosing : List Char :=
  ", default, skip_serializing_if = \"Option::is_none\")]".toList

/-- The line of a field behind its attribute. -/
def rustFieldLine (field : Field) : List Char :=
  ("pub " ++ rustIdentifier field.name ++ ": Option<" ++ rust.spellFieldType field.type ++ ">,\n").toList

theorem toList_spellField_rust (field : Field) :
    (rust.spellField field).toList =
      renameOpening ++ (quoted field.key).toList ++ renameClosing ++ '\n' :: rustFieldLine field := by
  have opening : "#[serde(rename = ".toList = renameOpening := rfl
  have closing : ", default, skip_serializing_if = \"Option::is_none\")]\n".toList = renameClosing ++ ['\n'] := by
    decide +kernel
  have line : rustFieldLine field = "pub ".toList ++ (rustIdentifier field.name).toList ++ ": Option<".toList ++
      (rust.spellFieldType field.type).toList ++ ">,\n".toList := by
    simp only [rustFieldLine, String.toList_append]
  have spelled : rust.spellField field =
      "#[serde(rename = " ++ quoted field.key ++ ", default, skip_serializing_if = \"Option::is_none\")]\n"
        ++ "pub " ++ rustIdentifier field.name ++ ": Option<" ++ rust.spellFieldType field.type ++ ">,\n" := rfl
  simp only [spelled, line, String.toList_append, opening, closing, List.append_assoc,
    List.cons_append, List.nil_append]

end Dialect

open Text Dialect

/-- **Wire names survive in Rust.** The first line of a field is its attribute. In it stands one literal in quotes,
without a line break and with no quote inside that is not escaped. The literal is read as the key of the field, and
the reading stops at its last quote, whatever follows it; so the attribute goes on there, and the attribute of a field
with another key has another literal. -/
theorem wire_name_survives (field : Field) :
    ∃ literal body,
      (rust.spellField field).toList =
          renameOpening ++ literal ++ renameClosing ++ '\n' :: rustFieldLine field ∧
        (rust.spellField field).toList.takeWhile (· != '\n') = renameOpening ++ literal ++ renameClosing ∧
        literal = '"' :: body ++ ['"'] ∧
        (∀ c ∈ body, c ≠ '\n' ∧ c ≠ '\r') ∧
        (∀ before after, body = before ++ '"' :: after → escapesNext before = true) ∧
        (∀ rest, readLiteral (literal ++ rest) = some (field.key, rest)) ∧
        ∀ other : Field, other.key ≠ field.key →
          ∀ rest, (rust.spellField other).toList ≠ renameOpening ++ literal ++ rest := by
  have inside := enclosed_flatMap field.key.toList
  refine ⟨(quoted field.key).toList, field.key.toList.flatMap escaped, toList_spellField_rust field, ?_, ?_,
    inside.oneLine, inside.quotes, readLiteral_quoted field.key, ?_⟩
  · have oneLine : ∀ c ∈ renameOpening ++ (quoted field.key).toList ++ renameClosing, (c != '\n') = true := by
      have opening : renameOpening.all (· != '\n') = true := by decide +kernel
      have closing : renameClosing.all (· != '\n') = true := by decide +kernel
      rw [List.all_eq_true] at opening closing
      refine List.forall_mem_append.2 ⟨List.forall_mem_append.2 ⟨opening, ?_⟩, closing⟩
      exact fun c mem => bne_iff_ne.2 (oneLine_quoted _ c mem)
    rw [toList_spellField_rust, List.takeWhile_append_of_pos oneLine, List.takeWhile_cons_of_neg (by decide),
      List.append_nil]
  · rw [quoted, String.toList_ofList]
  · intro other apart rest same
    rw [toList_spellField_rust, List.append_assoc, List.append_assoc, List.append_assoc,
      List.append_cancel_left_eq] at same
    have first := readLiteral_quoted other.key (renameClosing ++ '\n' :: rustFieldLine other)
    rw [same, readLiteral_quoted] at first
    exact apart (congrArg Prod.fst (Option.some.inj first)).symm

end SchemaTypes
