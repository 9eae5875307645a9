import SchemaTypes.Json.Typed
import SchemaTypes.Json.Value

/-!
# The texts of a value

A value may be written in many ways: blanks stand between its parts, and a character of a string stands for
itself or behind a backslash. `Spells v s r` says that the text `s` begins with a spelling of `v`, behind which
`r` is left; so the relations compose without cutting texts into pieces. The compact text is one of the
spellings.
-/

namespace SchemaTypes.Json
set_option autoImplicit false

open Ascii

/-- The text `s` is `t` behind blanks. -/
inductive Blanks : Bytes → Bytes → Prop where
  | none (s : Bytes) : Blanks s s
  | blank {b : UInt8} {s t : Bytes} (blank : Reader.isBlank b = true) (more : Blanks s t) : Blanks (b :: s) t

/-- Four hexadecimal digits with the value `n`. -/
inductive SpellsUnit : Nat → Bytes → Bytes → Prop where
  | intro {a b c d : UInt8} {i j k l : Nat} {s : Bytes} (first : hexDigit? a = some i)
      (second : hexDigit? b = some j) (third : hexDigit? c = some k) (fourth : hexDigit? d = some l) :
      SpellsUnit (((i * 16 + j) * 16 + k) * 16 + l) (a :: b :: c :: d :: s) s

/-- The characters of a string up to the quote that closes it. -/
inductive SpellsChars : List Char → Bytes → Bytes → Prop where
  | close (r : Bytes) : SpellsChars [] (quote :: r) r
  | plain {c : Char} {cs : List Char} {s r : Bytes} (printed : 0x20 ≤ c.toNat) (noQuote : c ≠ '"')
      (noBackslash : c ≠ '\\') (more : SpellsChars cs s r) :
      SpellsChars (c :: cs) (String.utf8EncodeChar c ++ s) r
  | letter {b : UInt8} {c : Char} {cs : List Char} {s r : Bytes} (named : letterEscape? b = some c)
      (more : SpellsChars cs s r) : SpellsChars (c :: cs) (backslash :: b :: s) r
  | unit {c : Char} {cs : List Char} {s t r : Bytes} (unit : SpellsUnit c.toNat s t)
      (more : SpellsChars cs t r) : SpellsChars (c :: cs) (backslash :: byte 'u' :: s) r
  | pair {m n : Nat} {c : Char} {cs : List Char} {s t u r : Bytes}
      (leading : SpellsUnit m s (backslash :: byte 'u' :: t)) (high : 0xd800 ≤ m ∧ m ≤ 0xdbff)
      (trailing : SpellsUnit n t u) (low : 0xdc00 ≤ n ∧ n ≤ 0xdfff)
      (joined : c.toNat = (m - 0xd800) * 0x400 + (n - 0xdc00) + 0x10000) (more : SpellsChars cs u r) :
      SpellsChars (c :: cs) (backslash :: byte 'u' :: s) r

/-- Nothing stands in front of the text that would go on with a number. -/
def EndsNumber (s : Bytes) : Prop :=
  ∀ b ∈ s.head?, isDigit b = false ∧ b ≠ point ∧ b ≠ byte 'e' ∧ b ≠ byte 'E'

mutual

/-- The text begins with a spelling of the value. -/
inductive Spells : Value → Bytes → Bytes → Prop where
  | null (r : Bytes) : Spells .null (bytes "null" ++ r) r
  | boolean (b : Bool) (r : Bytes) : Spells (.boolean b) (bytes (if b then "true" else "false") ++ r) r
  | number {n : Literal} {r : Bytes} (ends : EndsNumber r) : Spells (.number n) (Utf8.encode n.chars ++ r) r
  | string {text : String} {s r : Bytes} (chars : SpellsChars text.toList s r) :
      Spells (.string text) (quote :: s) r
  | emptyList {s r : Bytes} (blanks : Blanks s (closeBracket :: r)) : Spells (.list []) (openBracket :: s) r
  | list {vs : List Value} {s r : Bytes} (elements : SpellsElements vs s r) :
      Spells (.list vs) (openBracket :: s) r
  | emptyObject {s r : Bytes} (blanks : Blanks s (closeBrace :: r)) : Spells (.object []) (openBrace :: s) r
  | object {members : List (String × Value)} {s r : Bytes} (spelled : SpellsMembers members s r) :
      Spells (.object members) (openBrace :: s) r

/-- The elements of a list that is not empty, up to the bracket that closes it. -/
inductive SpellsElements : List Value → Bytes → Bytes → Prop where
  | last {v : Value} {s t u r : Bytes} (before : Blanks s t) (value : Spells v t u)
      (behind : Blanks u (closeBracket :: r)) : SpellsElements [v] s r
  | more {v : Value} {vs : List Value} {s t u w r : Bytes} (before : Blanks s t) (value : Spells v t u)
      (behind : Blanks u (comma :: w)) (more : SpellsElements vs w r) : SpellsElements (v :: vs) s r

/-- The members of an object that is not empty, up to the brace that closes it. -/
inductive SpellsMembers : List (String × Value) → Bytes → Bytes → Prop where
  | last {entry : String × Value} {s t u r : Bytes} (before : Blanks s (quote :: t))
      (member : SpellsMember entry t u) (behind : Blanks u (closeBrace :: r)) : SpellsMembers [entry] s r
  | more {entry : String × Value} {entries : List (String × Value)} {s t u w r : Bytes}
      (before : Blanks s (quote :: t)) (member : SpellsMember entry t u) (behind : Blanks u (comma :: w))
      (more : SpellsMembers entries w r) : SpellsMembers (entry :: entries) s r

/-- A member of an object behind the quote that opens its key. -/
inductive SpellsMember : String × Value → Bytes → Bytes → Prop where
  | intro {key : String} {v : Value} {s t u w r : Bytes} (chars : SpellsChars key.toList s t)
      (before : Blanks t (colon :: u)) (behind : Blanks u w) (value : Spells v w r) : SpellsMember (key, v) s r

end

/-- The text holds the value and nothing else but blanks. -/
def Writes (v : Value) (text : Bytes) : Prop :=
  ∃ s r, Blanks text s ∧ Spells v s r ∧ Blanks r []

end SchemaTypes.Json
