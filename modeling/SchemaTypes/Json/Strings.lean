import SchemaTypes.Json.Reader
import SchemaTypes.Text.Utf8

/-!
# Strings

The part of a string behind its opening quote. A string that is kept has to be UTF-8 with paired
surrogates; of one that is skipped only the shape of its escapes is checked.
-/

namespace SchemaTypes.Json
set_option autoImplicit false

open Reader

/-- A byte that stands for itself in a string. -/
def isPlain (b : UInt8) : Bool :=
  Ascii.space ≤ b && b != Ascii.quote && b != Ascii.backslash

/-- Four hexadecimal digits as a number. -/
def hexQuad : Reader Nat
  | a :: b :: c :: d :: r =>
    let value := do
      let a ← Ascii.hexDigit? a
      let b ← Ascii.hexDigit? b
      let c ← Ascii.hexDigit? c
      let d ← Ascii.hexDigit? d
      pure (((a * 16 + b) * 16 + c) * 16 + d)
    match value with
    | some n => .ok (n, ⟨r, by simp; omega⟩)
    | none => .error ⟨.invalidEscape, r.length, []⟩
  | _ => .error ⟨.unfinished .string, 0, []⟩

/-- Takes one byte of the second half of a surrogate pair. -/
def expectInPair (b : UInt8) : Reader Unit := do
  match ← next with
  | none => failHere (.unfinished .string)
  | some found => if found = b then pure () else failHere .unpairedSurrogate

/-- The character of an escape by code unit; two units of a surrogate pair make one character. -/
def unitEscape : Reader Char := do
  let unit ← hexQuad
  if 0xdc00 ≤ unit ∧ unit ≤ 0xdfff then failHere .loneSurrogate
  else if unit < 0xd800 ∨ 0xdbff < unit then pure (Char.ofNat unit)
  else do
    expectInPair Ascii.backslash
    expectInPair (Ascii.byte 'u')
    let second ← hexQuad
    if second < 0xdc00 ∨ 0xdfff < second then failHere .loneSurrogate
    else pure (Char.ofNat ((unit - 0xd800) * 0x400 + (second - 0xdc00) + 0x10000))

/-- The character of an escape by letter. -/
def letterEscape? (b : UInt8) : Option Char :=
  if b = Ascii.quote then some '"'
  else if b = Ascii.backslash then some '\\'
  else if b = Ascii.slash then some '/'
  else if b = Ascii.byte 'b' then some '\x08'
  else if b = Ascii.byte 'f' then some '\x0c'
  else if b = Ascii.byte 'n' then some '\n'
  else if b = Ascii.byte 'r' then some '\r'
  else if b = Ascii.byte 't' then some '\t'
  else none

/-- The character of an escape whose backslash is read. -/
def escape : Reader Char := do
  match ← next with
  | none => failHere (.unfinished .string)
  | some b =>
    match letterEscape? b with
    | some c => pure c
    | none => if b = Ascii.byte 'u' then unitEscape else failHere .invalidEscape

/-- Reads up to the closing quote, onto the reversed bytes read before; an escape stands for the bytes of its
character. -/
def contentOnto {n : Nat} (before : Bytes) (s : Bytes) (bound : s.length ≤ n) :
    Except Failure (Bytes × UpTo n) :=
  match behind : s.dropWhile isPlain with
  | [] => .error ⟨.unfinished .string, 0, []⟩
  | b :: r =>
    have shorter := length_behind behind
    let sofar := (s.takeWhile isPlain).reverseAux before
    if b = Ascii.quote then .ok (sofar, ⟨r, by omega⟩)
    else if b = Ascii.backslash then
      match escape r with
      | .error failure => .error failure
      | .ok (c, ⟨r', _⟩) => contentOnto ((String.utf8EncodeChar c).reverseAux sofar) r' (by omega)
    else .error ⟨.controlCharacter, r.length, []⟩
termination_by s.length

/-- The text of a string whose opening quote is read. Its content is decoded as a whole once the closing
quote is read; a refusal is placed before that by as many bytes as are not decoded. -/
def openString : Reader String := fun s =>
  match contentOnto [] s (length_le_self s) with
  | .error failure => .error failure
  | .ok (content, rest) =>
    match Utf8.decodeOnto [] content.reverse with
    | .error bad => .error ⟨.invalidCodePoint, rest.val.length + bad.length, []⟩
    | .ok chars => .ok (String.ofList chars.reverse, rest)

/-- Skips an escape whose backslash is read. -/
def skipEscape : Reader Unit := do
  match ← next with
  | none => failHere (.unfinished .string)
  | some b =>
    if (letterEscape? b).isSome then pure ()
    else if b = Ascii.byte 'u' then do let _ ← hexQuad
    else failHere .invalidEscape

/-- Skips up to the closing quote. -/
def skipChars {n : Nat} (s : Bytes) (bound : s.length ≤ n) : Except Failure (Unit × UpTo n) :=
  match behind : s.dropWhile isPlain with
  | [] => .error ⟨.unfinished .string, 0, []⟩
  | b :: r =>
    have shorter := length_behind behind
    if b = Ascii.quote then .ok ((), ⟨r, by omega⟩)
    else if b = Ascii.backslash then
      match skipEscape r with
      | .error failure => .error failure
      | .ok (_, ⟨r', _⟩) => skipChars r' (by omega)
    else .error ⟨.controlCharacter, r.length + 1, []⟩
termination_by s.length

/-- Skips a string whose opening quote is read. -/
def skipString : Reader Unit := fun s => skipChars s (length_le_self s)

end SchemaTypes.Json
