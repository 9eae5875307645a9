import SchemaTypes.Entries
import SchemaTypes.Json.Skipping

/-!
# Values of an expected kind

Readers for strings, optional values, maps and records. A record is an object with named fields, of
which unknown ones are skipped and none may stand twice, or a list of the fields in their order, of
which the last ones may be missing. Opening a map or a record takes one level of nesting; where no
level is left it is refused.
-/

namespace SchemaTypes.Json
set_option autoImplicit false

open Reader

variable {α σ : Type}

/-- What is found where another kind is expected, with its first byte taken. A bracket is only noticed. -/
def foundBehind (first : UInt8) : Reader Found :=
  if first = Ascii.byte 'n' then do word (Ascii.bytes "ull"); pure .null
  else if first = Ascii.byte 't' then do word (Ascii.bytes "rue"); pure (.boolean true)
  else if first = Ascii.byte 'f' then do word (Ascii.bytes "alse"); pure (.boolean false)
  else if first = Ascii.minus then do pure (found (← negativeNumeral))
  else if isDigit first then do pure (found (← numeralBehind false first))
  else if first = Ascii.quote then do pure (.string (← openString))
  else failHere .expectedValue
where
  /-- A number as something found. -/
  found : Numeral → Found
    | .integer value => .integer value
    | .floating negative magnitude => .floating negative magnitude

/-- Refuses the value that begins with `first`, which is not taken yet. -/
def wrongKind (first : UInt8) (expected : Expected) : Reader α :=
  if first = Ascii.openBracket then failHere (.wrongKind .sequence expected)
  else if first = Ascii.openBrace then failHere (.wrongKind .map expected)
  else do
    advance
    let found ← foundBehind first
    failHere (.wrongKind found expected)

/-- A string. -/
def string : Reader String := do
  match ← peekToken with
  | none => failAtNext (.unfinished .value)
  | some first =>
    if first = Ascii.quote then do advance; openString
    else wrongKind first .string

/-- A value, or `null` for none. -/
def optional (reader : Reader α) : Reader (Option α) := do
  if (← peekToken) = some (Ascii.byte 'n') then
    advance
    word (Ascii.bytes "ull")
    pure none
  else
    pure (some (← reader))

/-- One entry of an object, from the quote of its key on. `accept` may refuse the key before its colon,
`value` reads what stands behind it. -/
def entry (accept : σ → String → Reader Unit) (value : σ → String → Reader σ) (state : σ) : Reader σ := do
  let key ← within .unknown do advance; openString
  accept state key
  match ← peekToken with
  | none => failAtNext (.unfinished .object)
  | some b =>
    if b = Ascii.colon then do
      advance
      within (.key key) (value state key)
    else failAtNext .expectedColon

/-- The entries of an object up to its brace, from the quote of a key on. -/
def entries (accept : σ → String → Reader Unit) (value : σ → String → Reader σ) {n : Nat} (state : σ)
    (s : Bytes) (bound : s.length ≤ n) : Except Failure (σ × UpTo n) :=
  match entry accept value state s with
  | .error failure => .error failure
  | .ok (state, ⟨r, _⟩) =>
    match behind : r.dropWhile isBlank with
    | [] => .error ⟨.unfinished .object, 0, [.unknown]⟩
    | b :: r' =>
      have shorter := length_behind behind
      if b = Ascii.closeBrace then .ok (state, ⟨r', by omega⟩)
      else if b = Ascii.comma then
        match behindComma : r'.dropWhile isBlank with
        | [] => .error ⟨.unfinished .value, 0, [.unknown]⟩
        | key :: r'' =>
          have shorter' := length_behind behindComma
          if key = Ascii.quote then entries accept value state (key :: r'') (by simp; omega)
          else if key = Ascii.closeBrace then .error ⟨.trailingComma, r''.length, [.unknown]⟩
          else .error ⟨.keyNotString, r''.length, [.unknown]⟩
      else .error ⟨.expectedCommaInObject, r'.length, [.unknown]⟩
termination_by s.length
decreasing_by simp only [List.length_cons]; omega

/-- The entries of an object whose brace is taken. -/
def openObject (accept : σ → String → Reader Unit) (value : σ → String → Reader σ) (state : σ) :
    Reader σ := do
  match ← peekToken with
  | none => within .unknown (failAtNext (.unfinished .object))
  | some b =>
    if b = Ascii.closeBrace then do advance; pure state
    else if b = Ascii.quote then fun s => entries accept value state s (length_le_self s)
    else within .unknown (failAtNext .keyNotString)

/-- A map; `none` stands for values that may not be reached for want of a level. -/
def map (value : Option (Reader α)) : Reader (List (String × α)) := do
  match ← peekToken with
  | none => failAtNext (.unfinished .value)
  | some first =>
    if first = Ascii.openBrace then
      match value with
      | none => failAtNext .nestingTooDeep
      | some value => do
        advance
        openObject (fun _ _ => pure ()) (fun sofar key => do pure (assign key (← value) sofar)) []
    else wrongKind first .map

/-- A field of a record: its name, and how its value is read into the record. -/
structure FieldReader (σ : Type) where
  name : String
  read : σ → Reader σ

/-- A record being read, and the names of the fields that have been read. -/
structure Partial (σ : Type) where
  record : σ
  seen : List String

/-- Refuses the name of a field that has been read; the refusal comes behind the key and the blanks
after it, and behind the brace of the record if that follows. -/
def refuseRepeated (fields : List (FieldReader σ)) (sofar : Partial σ) (name : String) : Reader Unit := do
  if fields.any (·.name == name) && sofar.seen.contains name then
    if (← peekToken) = some Ascii.closeBrace then advance
    failHere (.duplicateField name)

/-- Reads the value of a field, or skips that of an unknown one. -/
def readField (fields : List (FieldReader σ)) (sofar : Partial σ) (name : String) : Reader (Partial σ) :=
  match fields.find? (·.name == name) with
  | none => do skipValue; pure sofar
  | some field => do pure ⟨← field.read sofar.record, name :: sofar.seen⟩

/-- The end of the list that a record was read from. -/
def closeList : Reader Unit := do
  match ← peekToken with
  | none => failAtNext (.unfinished .list)
  | some b =>
    if b = Ascii.closeBracket then advance
    else if b = Ascii.comma then do
      advance
      if (← peekToken) = some Ascii.closeBracket then failAtNext .trailingComma
      else failAtNext .trailingCharacters
    else failAtNext .trailingCharacters

/-- Whether another element follows; at the element if so, at the bracket otherwise. -/
def anotherElement (position : Nat) : Reader Bool := do
  match ← peekToken with
  | none => failAtNext (.unfinished .list)
  | some b =>
    if b = Ascii.closeBracket then pure false
    else if position = 0 then pure true
    else if b = Ascii.comma then do
      advance
      match ← peekToken with
      | none => failAtNext (.unfinished .value)
      | some b => if b = Ascii.closeBracket then failAtNext .trailingComma else pure true
    else failAtNext .expectedCommaInList

/-- The fields of a record from a list, the first of them at `position`. -/
def elements (position : Nat) : List (FieldReader σ) → σ → Reader σ
  | [], record => pure record
  | field :: more, record => do
    if ← anotherElement position then
      let record ← within (.index position) (field.read record)
      elements (position + 1) more record
    else pure record

/-- A record, read into `empty`; `none` stands for fields that may not be reached for want of a level. -/
def record (name : String) (fields : Option (List (FieldReader σ))) (empty : σ) : Reader σ := do
  match ← peekToken with
  | none => failAtNext (.unfinished .value)
  | some first =>
    if first = Ascii.openBrace then
      match fields with
      | none => failAtNext .nestingTooDeep
      | some fields => do
        advance
        let filled ← openObject (refuseRepeated fields) (readField fields) ⟨empty, []⟩
        pure filled.record
    else if first = Ascii.openBracket then
      match fields with
      | none => failAtNext .nestingTooDeep
      | some fields => do
        advance
        let filled ← elements 0 fields empty
        closeList
        pure filled
    else wrongKind first (.record name)

/-- Reads a whole text: behind the value only blanks may follow. -/
def whole (reader : Reader α) (text : Bytes) : Except Failure α :=
  match reader text with
  | .error failure => .error failure
  | .ok (value, ⟨rest, _⟩) =>
    match rest.dropWhile isBlank with
    | [] => .ok value
    | _ :: more => .error ⟨.trailingCharacters, more.length, []⟩

end SchemaTypes.Json
