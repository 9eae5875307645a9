import Mathlib.Tactic.SplitIfs
import SchemaTypes.Proofs.Json.Numbers

/-!
# Objects that are open at once

A point of a text lies inside the objects whose braces are open there; braces that stand in a string do not count.
The most objects that are open at once in the compact text of a value follow from the value.
-/

namespace SchemaTypes.Json
set_option autoImplicit false

/-- What a point of a text lies in: a string or none, behind a backslash or not, and so many objects. -/
structure Point where
  quoted : Bool
  escaped : Bool
  opened : Nat
deriving DecidableEq, Repr

/-- The point behind one more character. -/
def Point.next (p : Point) (c : Char) : Point :=
  if p.escaped then { p with escaped := false }
  else if p.quoted then { p with quoted := c ≠ '"', escaped := c = '\\' }
  else if c = '"' then { p with quoted := true }
  else if c = '\x7b' then { p with opened := p.opened + 1 }
  else if c = '\x7d' then { p with opened := p.opened - 1 }
  else p

/-- The most objects that are open at a point from `p` on. -/
def Point.deepest (p : Point) : List Char → Nat
  | [] => p.opened
  | c :: more => max p.opened ((p.next c).deepest more)

/-- A point outside of strings. -/
def Point.outside (opened : Nat) : Point := ⟨false, false, opened⟩

/-- A point inside a string. -/
def Point.inside (opened : Nat) : Point := ⟨true, false, opened⟩

/-- The most objects that are open at once in a text. -/
def openObjects (text : String) : Nat :=
  (Point.outside 0).deepest text.toList

namespace Value

mutual

/-- How many objects stand inside each other in a value. -/
def nesting : Value → Nat
  | null => 0
  | boolean _ => 0
  | number _ => 0
  | string _ => 0
  | list elements => elementsNesting elements
  | object members => 1 + membersNesting members

def elementsNesting : List Value → Nat
  | [] => 0
  | v :: more => max v.nesting (elementsNesting more)

def membersNesting : List (String × Value) → Nat
  | [] => 0
  | member :: more => max (memberNesting member) (membersNesting more)

def memberNesting : String × Value → Nat
  | (_, v) => v.nesting

end

end Value

namespace Point

variable {p : Point} {opened : Nat} {rest : List Char} {c : Char}

theorem opened_le_deepest (p : Point) (rest : List Char) : p.opened ≤ p.deepest rest := by
  cases rest with
  | nil => exact Nat.le_refl _
  | cons c more => exact Nat.le_max_left _ _

/-- A character that opens and closes no object adds no deeper point. -/
theorem deepest_cons (same : (p.next c).opened = p.opened) : p.deepest (c :: rest) = (p.next c).deepest rest := by
  rw [deepest, Nat.max_eq_right]
  exact same ▸ opened_le_deepest _ rest

/-- A character that neither quotes nor opens or closes an object. -/
def Plain (c : Char) : Prop := c ≠ '"' ∧ c ≠ '\x7b' ∧ c ≠ '\x7d'

instance (c : Char) : Decidable (Plain c) := inferInstanceAs (Decidable (_ ∧ _))

theorem deepest_outside (plain : Plain c) :
    (outside opened).deepest (c :: rest) = (outside opened).deepest rest := by
  have next : (outside opened).next c = outside opened := by
    simp [Point.next, outside, plain.1, plain.2]
  rw [deepest_cons, next]
  rw [next]

/-- Plain characters are passed over. -/
theorem deepest_outside_append {cs : List Char} (plain : ∀ c ∈ cs, Plain c) :
    (outside opened).deepest (cs ++ rest) = (outside opened).deepest rest := by
  induction cs with
  | nil => rfl
  | cons c cs ih =>
    rw [List.cons_append, deepest_outside (plain c List.mem_cons_self)]
    exact ih fun c mem => plain c (List.mem_cons_of_mem _ mem)

/-- A quote leads into a string, and another one out of it. -/
theorem deepest_quote : (outside opened).deepest ('"' :: rest) = (inside opened).deepest rest :=
  deepest_cons rfl

theorem deepest_closing_quote : (inside opened).deepest ('"' :: rest) = (outside opened).deepest rest :=
  deepest_cons rfl

theorem deepest_inside (noQuote : c ≠ '"') (noBackslash : c ≠ '\\') :
    (inside opened).deepest (c :: rest) = (inside opened).deepest rest := by
  have next : (inside opened).next c = inside opened := by
    simp [Point.next, inside, noQuote, noBackslash]
  rw [deepest_cons, next]
  rw [next]

/-- A character behind a backslash is passed over, whatever it is. -/
theorem deepest_escape (c : Char) :
    (inside opened).deepest ('\\' :: c :: rest) = (inside opened).deepest rest :=
  (deepest_cons rfl).trans (deepest_cons rfl)

theorem deepest_openBrace :
    (outside opened).deepest ('\x7b' :: rest) = max opened ((outside (opened + 1)).deepest rest) := rfl

theorem deepest_closeBrace :
    (outside (opened + 1)).deepest ('\x7d' :: rest) = max (opened + 1) ((outside opened).deepest rest) := rfl

/-- A written character stays inside its string. -/
theorem deepest_escapedChar (c : Char) :
    (inside opened).deepest (escapedChar c ++ rest) = (inside opened).deepest rest := by
  unfold escapedChar
  split_ifs with noQuote noBackslash _ _ _ _ _ control
  iterate 7 exact deepest_escape _
  · have digit (n : Nat) (small : n < 16) : hexDigit n ≠ '"' ∧ hexDigit n ≠ '\\' := by
      have all : ∀ d : Fin 16, hexDigit d ≠ '"' ∧ hexDigit d ≠ '\\' := by decide
      exact all ⟨n, small⟩
    have first := digit (c.toNat / 16) (by omega)
    have second := digit (c.toNat % 16) (by omega)
    calc (inside opened).deepest ('\\' :: 'u' :: '0' :: '0' :: hexDigit _ :: hexDigit _ :: rest)
      _ = (inside opened).deepest ('0' :: '0' :: hexDigit _ :: hexDigit _ :: rest) := deepest_escape 'u'
      _ = (inside opened).deepest ('0' :: hexDigit _ :: hexDigit _ :: rest) :=
        deepest_inside (by decide) (by decide)
      _ = (inside opened).deepest (hexDigit _ :: hexDigit _ :: rest) := deepest_inside (by decide) (by decide)
      _ = (inside opened).deepest (hexDigit _ :: rest) := deepest_inside first.1 first.2
      _ = (inside opened).deepest rest := deepest_inside second.1 second.2
  · exact deepest_inside noQuote noBackslash

/-- A written string is passed over. -/
theorem deepest_stringChars (text : String) :
    (outside opened).deepest (stringChars text ++ rest) = (outside opened).deepest rest := by
  have content (cs : List Char) :
      (inside opened).deepest (cs.flatMap escapedChar ++ '"' :: rest) = (outside opened).deepest rest := by
    induction cs with
    | nil => exact deepest_closing_quote
    | cons c cs ih =>
      rw [List.flatMap_cons, List.append_assoc, deepest_escapedChar]
      exact ih
  rw [stringChars, List.cons_append, List.cons_append, List.append_assoc, deepest_quote]
  exact content text.toList

/-- A written number has digits, its signs, a point and the letter of an exponent. -/
theorem plain_of_mem_literal {n : Literal} (mem : c ∈ n.chars) : Plain c := by
  have digit (isDigit : c.isDigit = true) : Plain c := by
    refine ⟨?_, ?_, ?_⟩ <;> rintro rfl <;> exact absurd isDigit (by decide)
  have sign (isSign : c ∈ ['-', '+', '.', 'e', 'E']) : Plain c := by
    refine ⟨?_, ?_, ?_⟩ <;> rintro rfl <;> exact absurd isSign (by decide)
  obtain ⟨negative, whole, fraction, exponent⟩ := n
  simp only [Literal.chars, List.mem_append] at mem
  rcases mem with ((mem | mem) | mem) | mem
  · split at mem
    · exact sign (by simp_all)
    · cases mem
  · exact digit (Nat.isDigit_of_mem_toDigits (by decide) (by decide) mem)
  · split at mem
    · cases mem
    · rcases List.mem_cons.1 mem with same | mem
      · exact sign (by simp [same])
      · exact digit (isDigit_of_mem_digitChars mem)
  · cases exponent with
    | none => cases mem
    | some e =>
      simp only [Exponent.chars, List.cons_append, List.mem_cons, List.mem_append] at mem
      rcases mem with same | mem | mem
      · exact sign (by rw [same]; cases e.capital <;> decide)
      · rcases sign_ : e.sign with _ | _ | _ <;> rw [sign_] at mem <;> exact sign (by simp_all)
      · exact digit (isDigit_of_mem_digitChars mem)

end Point

open Point

mutual

/-- **The compact text of a value opens as many objects inside each other as the value has.** -/
theorem deepest_chars : (v : Value) → (opened : Nat) → (rest : List Char) →
    (outside opened).deepest (v.chars ++ rest) = max (opened + v.nesting) ((outside opened).deepest rest)
  | .null, opened, rest => by
    rw [Value.chars, deepest_outside_append (by simp [Plain])]
    exact (Nat.max_eq_right (opened_le_deepest (outside opened) rest)).symm
  | .boolean true, opened, rest => by
    rw [Value.chars, if_pos rfl, deepest_outside_append (by simp [Plain])]
    exact (Nat.max_eq_right (opened_le_deepest (outside opened) rest)).symm
  | .boolean false, opened, rest => by
    rw [Value.chars, if_neg Bool.false_ne_true, deepest_outside_append (by simp [Plain])]
    exact (Nat.max_eq_right (opened_le_deepest (outside opened) rest)).symm
  | .number n, opened, rest => by
    rw [Value.chars, deepest_outside_append fun c mem => plain_of_mem_literal mem]
    exact (Nat.max_eq_right (opened_le_deepest (outside opened) rest)).symm
  | .string text, opened, rest => by
    rw [Value.chars, deepest_stringChars]
    exact (Nat.max_eq_right (opened_le_deepest (outside opened) rest)).symm
  | .list elements, opened, rest => by
    rw [Value.chars, List.cons_append, List.cons_append, List.append_assoc, deepest_outside (by decide),
      deepest_elementChars, List.singleton_append, deepest_outside (by decide), Value.nesting]
  | .object members, opened, rest => by
    -- Behind the closing brace no more objects are open than in front of the opening one.
    have here : opened ≤ (outside opened).deepest rest := opened_le_deepest (outside opened) rest
    rw [Value.chars, List.cons_append, List.cons_append, List.append_assoc, deepest_openBrace,
      deepest_memberChars, List.singleton_append, deepest_closeBrace, Value.nesting]
    omega

theorem deepest_elementChars : (vs : List Value) → (opened : Nat) → (rest : List Char) →
    (outside opened).deepest (Value.elementChars vs ++ rest) =
      max (opened + Value.elementsNesting vs) ((outside opened).deepest rest)
  | [], opened, rest => (Nat.max_eq_right (opened_le_deepest (outside opened) rest)).symm
  | [v], opened, rest => by
    rw [Value.elementChars, deepest_chars, Value.elementsNesting, Value.elementsNesting, Nat.max_zero]
  | v :: w :: vs, opened, rest => by
    have more := deepest_elementChars (w :: vs) opened rest
    have nesting : Value.elementsNesting (v :: w :: vs) = max v.nesting (Value.elementsNesting (w :: vs)) := rfl
    rw [Value.elementChars, List.append_assoc, deepest_chars, List.cons_append, deepest_outside (by decide), more,
      nesting]
    · omega
    · exact nofun

theorem deepest_memberChars : (members : List (String × Value)) → (opened : Nat) → (rest : List Char) →
    (outside opened).deepest (Value.memberChars members ++ rest) =
      max (opened + Value.membersNesting members) ((outside opened).deepest rest)
  | [], opened, rest => (Nat.max_eq_right (opened_le_deepest (outside opened) rest)).symm
  | [member], opened, rest => by
    have only := deepest_memberChar member opened rest
    rw [Value.memberChars, List.append_assoc, List.cons_append, only, Value.membersNesting, Value.membersNesting,
      Nat.max_zero]
  | member :: next :: members, opened, rest => by
    have first := deepest_memberChar member opened (',' :: (Value.memberChars (next :: members) ++ rest))
    have more := deepest_memberChars (next :: members) opened rest
    have nesting : Value.membersNesting (member :: next :: members) =
        max (Value.memberNesting member) (Value.membersNesting (next :: members)) := rfl
    rw [Value.memberChars, List.append_assoc, List.cons_append, List.append_assoc, List.cons_append, first,
      deepest_outside (by decide), more, nesting]
    · omega
    · exact nofun

theorem deepest_memberChar : (member : String × Value) → (opened : Nat) → (rest : List Char) →
    (outside opened).deepest (stringChars member.1 ++ ':' :: (member.2.chars ++ rest)) =
      max (opened + Value.memberNesting member) ((outside opened).deepest rest)
  | (key, v), opened, rest => by
    rw [deepest_stringChars, deepest_outside (by decide), deepest_chars, Value.memberNesting]

end

/-- The most objects that are open at once in the compact text of a value. -/
theorem openObjects_compact (v : Value) : openObjects v.compact = v.nesting := by
  have all := deepest_chars v 0 []
  rw [List.append_nil, Nat.zero_add, deepest] at all
  rw [openObjects, Value.compact, String.toList_ofList, all]
  exact Nat.max_zero _

/-- A brace in a key opens nothing, and a list is no object. -/
example : openObjects (Value.object [("\x7b", .list [.object []])]).compact = 2 := by decide +kernel

end SchemaTypes.Json
