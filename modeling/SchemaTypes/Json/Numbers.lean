import SchemaTypes.Json.Reader

/-!
# Numbers

A number is an integer where it has neither fraction nor exponent and fits into 64 bits, signed or
unsigned; minus zero and everything else is a floating-point magnitude. Its significand takes digits
as long as it fits into 64 bits, further ones only shift it, and it is then scaled by powers of ten.
-/

namespace SchemaTypes.Json
set_option autoImplicit false

open Reader Decimal

/-- A number that was read. -/
inductive Numeral where
  | integer (value : Int)
  | floating (negative : Bool) (magnitude : Binary64)
deriving DecidableEq, Repr

/-- The largest significand. -/
def maxSignificand : Nat := Nat.pow 2 64 - 1

/-- The largest exponent that is read. -/
def maxWrittenExponent : Nat := Nat.pow 2 31 - 1

/-- Whether a byte is a decimal digit. -/
def isDigit (b : UInt8) : Bool :=
  Ascii.zero ≤ b && b ≤ 0x39

/-- The value of a decimal digit. -/
def digitValue (b : UInt8) : Nat :=
  b.toNat - Ascii.zero.toNat

/-- The decimal digits at the front. -/
def digits : Reader (List Nat) := do
  let found ← takeWhile isDigit
  pure (found.map digitValue)

/-- The significand with the leading ones of `ds` appended while it fits into `limit`, and how many of
`ds` are left over. -/
def appendDigits (limit significand : Nat) : List Nat → Nat × Nat
  | [] => (significand, 0)
  | d :: ds =>
    if limit < significand * 10 + d then (significand, ds.length + 1)
    else appendDigits limit (significand * 10 + d) ds

/-- The magnitude of `significand * 10 ^ exponent`. -/
def floating (negative : Bool) (significand : Nat) (exponent : Int) : Reader Numeral :=
  match (Binary64.ofQuotient significand 1).bind (scaleByTen · exponent) with
  | some magnitude => pure (.floating negative magnitude)
  | none => failHere .numberOutOfRange

/-- An exponent from its letter on, added to the exponent that the digits before gave. One too large
to be read makes the magnitude zero or puts it out of range. -/
def exponentPart (negative : Bool) (significand : Nat) (exponent : Int) : Reader Numeral := do
  advance
  let sign ← peek
  if sign = some Ascii.plus || sign = some Ascii.minus then advance
  let falling := sign = some Ascii.minus
  match ← next with
  | none => failHere (.unfinished .value)
  | some first =>
    if !isDigit first then failHere .invalidNumber
    else do
      let more ← look digits
      let (written, left) := appendDigits maxWrittenExponent (digitValue first) more
      if 0 < left ∧ significand ≠ 0 ∧ !falling then do
        skip (more.length - left + 1)
        failHere .numberOutOfRange
      else do
        skip more.length
        if 0 < left then pure (.floating negative Binary64.zero)
        else floating negative significand (if falling then exponent - written else exponent + written)

/-- What follows the digits of a number: an exponent or nothing. -/
def exponentOrEnd (negative : Bool) (significand : Nat) (exponent : Int) : Reader Numeral := do
  let following ← peek
  if following = some (Ascii.byte 'e') || following = some (Ascii.byte 'E') then
    exponentPart negative significand exponent
  else floating negative significand exponent

/-- A fraction from its point on. -/
def fractionPart (negative : Bool) (significand : Nat) (exponent : Int) : Reader Numeral := do
  advance
  let ds ← digits
  if ds.isEmpty then
    match ← peek with
    | none => failAtNext (.unfinished .value)
    | some _ => failAtNext .invalidNumber
  else
    let (significand, left) := appendDigits maxSignificand significand ds
    exponentOrEnd negative significand (exponent - (ds.length - left : Nat))

/-- The integer of a sign and a significand; what 64 bits cannot hold, and minus zero, is floating. -/
def integerOrFloating (negative : Bool) (significand : Nat) : Reader Numeral :=
  if !negative then pure (.integer significand)
  else if 0 < significand ∧ significand ≤ Nat.pow 2 63 then pure (.integer (-significand))
  else floating true significand 0

/-- What follows the digits before the point, of which `left` were too many. -/
def behindWhole (negative : Bool) (significand left : Nat) : Reader Numeral := do
  let following ← peek
  if following = some Ascii.point then fractionPart negative significand left
  else if following = some (Ascii.byte 'e') || following = some (Ascii.byte 'E') then
    exponentPart negative significand left
  else if left = 0 then integerOrFloating negative significand
  else floating negative significand left

/-- The rest of a number whose first byte behind the sign is taken. -/
def numeralBehind (negative : Bool) (first : UInt8) : Reader Numeral := do
  if !isDigit first then failHere .invalidNumber
  else if first = Ascii.zero then
    if (← peek).any isDigit then failAtNext .invalidNumber else behindWhole negative 0 0
  else
    let more ← digits
    let (significand, left) := appendDigits maxSignificand (digitValue first) more
    behindWhole negative significand left

/-- A number behind its minus sign. -/
def negativeNumeral : Reader Numeral := do
  match ← next with
  | none => failHere (.unfinished .value)
  | some first => numeralBehind true first

/-- Skips an exponent from its letter on. -/
def skipExponent : Reader Unit := do
  advance
  let sign ← peek
  if sign = some Ascii.plus || sign = some Ascii.minus then advance
  match ← next with
  | none => failHere .invalidNumber
  | some first => if isDigit first then do let _ ← digits else failHere .invalidNumber

/-- Skips an exponent, if there is one. -/
def skipExponentIfAny : Reader Unit := do
  let following ← peek
  if following = some (Ascii.byte 'e') || following = some (Ascii.byte 'E') then skipExponent

/-- Skips the rest of a number whose first byte behind the sign is taken; only its form is checked. -/
def skipNumeralBehind (first : UInt8) : Reader Unit := do
  if !isDigit first then failHere .invalidNumber
  else
    if first = Ascii.zero then
      if (← peek).any isDigit then failAtNext .invalidNumber
    else
      let _ ← digits
    if (← peek) = some Ascii.point then
      advance
      if (← digits).isEmpty then failAtNext .invalidNumber else skipExponentIfAny
    else skipExponentIfAny

/-- Skips a number behind its minus sign. -/
def skipNegativeNumeral : Reader Unit := do
  match ← next with
  | none => failHere .invalidNumber
  | some first => skipNumeralBehind first

end SchemaTypes.Json
