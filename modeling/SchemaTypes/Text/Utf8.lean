import SchemaTypes.Text.Bytes

/-!
# UTF-8

A run of bytes is decoded character by character; overlong forms, surrogates and values beyond the
last code point are refused. A refusal hands back the bytes from the first ill-formed one on.
-/

namespace SchemaTypes.Utf8
set_option autoImplicit false

/-- A byte that continues a character. -/
def isContinuation (b : UInt8) : Bool :=
  0x80 ≤ b && b ≤ 0xbf

/-- The value `n` so far, continued by the bytes `more`; `none` when one of them cannot continue it. -/
def continued (n : Nat) : Bytes → Option Nat
  | [] => some n
  | b :: more => if isContinuation b then continued (n * 64 + (b.toNat - 0x80)) more else none

/-- How many bytes continue a character that begins with `lead`, and the bits `lead` contributes. -/
def lead? (lead : UInt8) : Option (Nat × Nat) :=
  if lead < 0x80 then some (0, lead.toNat)
  else if lead < 0xc0 then none
  else if lead < 0xe0 then some (1, lead.toNat - 0xc0)
  else if lead < 0xf0 then some (2, lead.toNat - 0xe0)
  else if lead < 0xf8 then some (3, lead.toNat - 0xf0)
  else none

/-- The least code point that needs `more` continuation bytes. -/
def least : Nat → Nat
  | 0 => 0
  | 1 => 0x80
  | 2 => 0x800
  | _ => 0x10000

/-- The character that begins with `lead` and goes on in `rest`, and how many bytes of `rest` it takes. -/
def character? (lead : UInt8) (rest : Bytes) : Option (Char × Nat) := do
  let (more, bits) ← lead? lead
  let following := rest.take more
  if following.length < more then none
  let n ← continued bits following
  if least more ≤ n ∧ n.isValidChar then some (Char.ofNat n, more) else none

/-- Decodes `s` onto the reversed characters before it, or returns what begins with an ill-formed byte. -/
def decodeOnto (before : List Char) : Bytes → Except Bytes (List Char)
  | [] => .ok before
  | lead :: rest =>
    match character? lead rest with
    | none => .error (lead :: rest)
    | some (c, more) => decodeOnto (c :: before) (rest.drop more)
termination_by s => s.length
decreasing_by
  simp only [List.length_drop, List.length_cons]
  omega

/-- The bytes of a text. -/
def encode (chars : List Char) : Bytes :=
  chars.flatMap String.utf8EncodeChar

end SchemaTypes.Utf8
