import SchemaTypes.Json.Strings
import SchemaTypes.Json.Numbers

/-!
# Skipping a value

A value nobody asked for is passed over: its syntax is checked, its depth is not limited. The brackets
that are still open are kept on a stack.
-/

namespace SchemaTypes.Json
set_option autoImplicit false

open Reader

/-- A bracket that is open. -/
inductive Bracket where
  | list
  | object
deriving DecidableEq, Repr

/-- The byte that closes a bracket. -/
def Bracket.closing : Bracket → UInt8
  | .list => Ascii.closeBracket
  | .object => Ascii.closeBrace

/-- What a text ends in while the bracket is open. -/
def Bracket.unfinished : Bracket → Cause
  | .list => .unfinished .list
  | .object => .unfinished .object

/-- What is missing behind an entry that no comma and no end follows. -/
def Bracket.expectedComma : Bracket → Cause
  | .list => .expectedCommaInList
  | .object => .expectedCommaInObject

/-- Skips the rest of a value whose first byte is taken. A value with a bracket is only entered, and
the bracket returned. -/
def skipBehind (first : UInt8) : Reader (Option Bracket) :=
  if first = Ascii.byte 'n' then do word (Ascii.bytes "ull"); pure none
  else if first = Ascii.byte 't' then do word (Ascii.bytes "rue"); pure none
  else if first = Ascii.byte 'f' then do word (Ascii.bytes "alse"); pure none
  else if first = Ascii.minus then do skipNegativeNumeral; pure none
  else if isDigit first then do skipNumeralBehind first; pure none
  else if first = Ascii.quote then do skipString; pure none
  else if first = Ascii.openBracket then pure (some .list)
  else if first = Ascii.openBrace then pure (some .object)
  else failHere .expectedValue

/-- Skips the key of an entry and its colon; the entries of a list have none. -/
def skipKey : Bracket → Reader Unit
  | .list => pure ()
  | .object => do
    match ← peekToken with
    | none => failAtNext (.unfinished .object)
    | some b =>
      if b = Ascii.quote then do
        advance
        skipString
        match ← peekToken with
        | none => failAtNext (.unfinished .object)
        | some b => if b = Ascii.colon then advance else failAtNext .expectedColon
      else failAtNext .keyNotString

/-- Where a skip goes on: at a value, inside a bracket just opened, or behind a value. -/
inductive Phase where
  | value
  | opened (bracket : Bracket)
  | behind
deriving DecidableEq, Repr

/-- A bracket just opened may go on at a value without reading anything. -/
def Phase.rank : Phase → Nat
  | .opened _ => 1
  | _ => 0

/-- Skips until every bracket of the stack is closed. -/
def skipOpen {n : Nat} (phase : Phase) (stack : List Bracket) (s : Bytes) (bound : s.length ≤ n) :
    Except Failure (Unit × UpTo n) :=
  match phase with
  | .value =>
    match behind : s.dropWhile isBlank with
    | [] => .error ⟨.unfinished .value, 0, []⟩
    | first :: r =>
      have shorter := length_behind behind
      match skipBehind first r with
      | .error failure => .error failure
      | .ok (none, ⟨r', within⟩) =>
        have shorter' := Nat.lt_of_le_of_lt within shorter
        skipOpen .behind stack r' (length_behind_le bound shorter')
      | .ok (some bracket, ⟨r', within⟩) =>
        have shorter' := Nat.lt_of_le_of_lt within shorter
        skipOpen (.opened bracket) stack r' (length_behind_le bound shorter')
  | .opened bracket =>
    match behind : s.dropWhile isBlank with
    | [] => .error ⟨bracket.unfinished, 0, []⟩
    | first :: r =>
      have shorter := length_behind behind
      if first = bracket.closing then skipOpen .behind stack r (length_behind_le bound shorter)
      else
        match skipKey bracket (first :: r) with
        | .error failure => .error failure
        | .ok (_, ⟨r', within⟩) =>
          have within' := length_key_le shorter within
          skipOpen .value (bracket :: stack) r' (length_rest_le bound within')
  | .behind =>
    match stack with
    | [] => .ok ((), ⟨s, bound⟩)
    | bracket :: stack =>
      match behind : s.dropWhile isBlank with
      | [] => .error ⟨bracket.unfinished, 0, []⟩
      | first :: r =>
        have shorter := length_behind behind
        if first = Ascii.comma then
          match skipKey bracket r with
          | .error failure => .error failure
          | .ok (_, ⟨r', within⟩) =>
            have shorter' := Nat.lt_of_le_of_lt within shorter
            skipOpen .value (bracket :: stack) r' (length_behind_le bound shorter')
        else if first = bracket.closing then skipOpen .behind stack r (length_behind_le bound shorter)
        else .error ⟨bracket.expectedComma, r.length, []⟩
termination_by (s.length, phase.rank)
decreasing_by
  all_goals simp only [Phase.rank, Prod.lex_def]
  all_goals omega

/-- Skips one value. -/
def skipValue : Reader Unit := fun s => skipOpen .value [] s (length_le_self s)

end SchemaTypes.Json
