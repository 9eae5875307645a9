import SchemaTypes.Text.Printable
import SchemaTypes.Text.Combining

/-!
# Quoted literals

A text between double quotes. The quote and the backslash get a backslash in front; the null
character, the tab and the line breaks have escapes by name; every other character that is not
printable, or that would combine with the one before it, is written by its code point.
-/

namespace SchemaTypes.Text
set_option autoImplicit false

/-- The escape of a character by its hexadecimal code point. -/
def codePointEscape (c : Char) : List Char :=
  ['\\', 'u', '\x7b'] ++ Nat.toDigits 16 c.toNat ++ ['\x7d']

/-- One character inside a quoted literal. -/
def escaped (c : Char) : List Char :=
  if c = '"' then ['\\', '"']
  else if c = '\\' then ['\\', '\\']
  else if c = '\x00' then ['\\', '0']
  else if c = '\t' then ['\\', 't']
  else if c = '\r' then ['\\', 'r']
  else if c = '\n' then ['\\', 'n']
  else if isCombining c || !isPrintable c then codePointEscape c
  else [c]

/-- The quoted literal of a text. -/
def quoted (s : String) : String :=
  String.ofList ('"' :: s.toList.flatMap escaped ++ ['"'])

end SchemaTypes.Text
