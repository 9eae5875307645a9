/-!
# JSON values and their compact text

A value keeps the members of an object in their order and a number as it is written. The compact text
has no blanks; strings escape the quote, the backslash and the control characters, and nothing else.
-/

namespace SchemaTypes.Json
set_option autoImplicit false

/-- The exponent of a written number. -/
structure Exponent where
  capital : Bool
  sign : Option Bool
  first : Fin 10
  more : List (Fin 10)
deriving DecidableEq, Repr

/-- A number as it is written; an empty fraction stands without its point. -/
structure Literal where
  negative : Bool
  whole : Nat
  fraction : List (Fin 10)
  exponent : Option Exponent
deriving DecidableEq, Repr

/-- A JSON value. -/
inductive Value where
  | null
  | boolean (value : Bool)
  | number (literal : Literal)
  | string (value : String)
  | list (elements : List Value)
  | object (members : List (String × Value))
deriving Inhabited, Repr

/-- The hexadecimal digit of `n`, which is below sixteen. -/
def hexDigit (n : Nat) : Char :=
  Nat.digitChar n

/-- One character inside a string. -/
def escapedChar (c : Char) : List Char :=
  if c = '"' then ['\\', '"']
  else if c = '\\' then ['\\', '\\']
  else if c = '\x08' then ['\\', 'b']
  else if c = '\x0c' then ['\\', 'f']
  else if c = '\n' then ['\\', 'n']
  else if c = '\r' then ['\\', 'r']
  else if c = '\t' then ['\\', 't']
  else if c.toNat < 0x20 then ['\\', 'u', '0', '0', hexDigit (c.toNat / 16), hexDigit (c.toNat % 16)]
  else [c]

/-- A string with its quotes. -/
def stringChars (s : String) : List Char :=
  '"' :: s.toList.flatMap escapedChar ++ ['"']

/-- The text of a digit. -/
def digitChars (ds : List (Fin 10)) : List Char :=
  ds.map fun d => Nat.digitChar d.val

def Exponent.chars (e : Exponent) : List Char :=
  (if e.capital then 'E' else 'e') ::
    (match e.sign with | none => [] | some minus => [if minus then '-' else '+'])
    ++ digitChars (e.first :: e.more)

def Literal.chars (n : Literal) : List Char :=
  (if n.negative then ['-'] else []) ++ Nat.toDigits 10 n.whole
    ++ (if n.fraction.isEmpty then [] else '.' :: digitChars n.fraction)
    ++ (match n.exponent with | none => [] | some e => e.chars)

namespace Value

mutual

/-- The compact text of a value. -/
def chars : Value → List Char
  | null => "null".toList
  | boolean b => if b then "true".toList else "false".toList
  | number n => n.chars
  | string s => stringChars s
  | list elements => '[' :: elementChars elements ++ [']']
  | object members => '\x7b' :: memberChars members ++ ['\x7d']

/-- The elements of a list, with commas between them. -/
def elementChars : List Value → List Char
  | [] => []
  | [v] => v.chars
  | v :: more => v.chars ++ ',' :: elementChars more

/-- The members of an object, with commas between them. -/
def memberChars : List (String × Value) → List Char
  | [] => []
  | [(key, v)] => stringChars key ++ ':' :: v.chars
  | (key, v) :: more => stringChars key ++ ':' :: v.chars ++ ',' :: memberChars more

end

/-- The compact text of a value. -/
def compact (v : Value) : String :=
  String.ofList v.chars

end Value

end SchemaTypes.Json
