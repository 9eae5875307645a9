import SchemaTypes.Text.Bytes
import SchemaTypes.Text.Quoted
import SchemaTypes.Decimal.Shortest

/-!
# Why a JSON text is refused

A failure says what is wrong, at which place of the text, and which value was being read: the keys and
positions that lead to it from the root.
-/

namespace SchemaTypes.Json
set_option autoImplicit false

open Text (quoted)

/-- What is still open when the text ends. -/
inductive Unfinished where
  | list
  | object
  | string
  | value
deriving DecidableEq, Repr

/-- A value found where another kind of value is expected. -/
inductive Found where
  | null
  | boolean (value : Bool)
  | integer (value : Int)
  | floating (negative : Bool) (magnitude : Decimal.Binary64)
  | string (value : String)
  | sequence
  | map
deriving DecidableEq, Repr

/-- What a value has to be. -/
inductive Expected where
  | string
  | map
  | record (name : String)
deriving DecidableEq, Repr

/-- What is wrong with the text. -/
inductive Cause where
  | unfinished (what : Unfinished)
  | expectedColon
  | expectedCommaInList
  | expectedCommaInObject
  | expectedWord
  | expectedValue
  | invalidEscape
  | invalidNumber
  | numberOutOfRange
  | invalidCodePoint
  | controlCharacter
  | keyNotString
  | loneSurrogate
  | unpairedSurrogate
  | trailingComma
  | trailingCharacters
  | nestingTooDeep
  | wrongKind (found : Found) (expected : Expected)
  | duplicateField (name : String)
deriving DecidableEq, Repr

/-- A step from a value to one inside it; `unknown` stands for an entry whose key is not read. -/
inductive Step where
  | key (name : String)
  | index (position : Nat)
  | unknown
deriving DecidableEq, Repr

/-- A refusal: its cause, the number of bytes behind its place, and the steps to the value at fault. -/
structure Failure where
  cause : Cause
  unread : Nat
  path : List Step
deriving DecidableEq, Repr

def Unfinished.describe : Unfinished → String
  | .list => "a list"
  | .object => "an object"
  | .string => "a string"
  | .value => "a value"

def Found.describe : Found → String
  | .null => "null"
  | .boolean b => s!"boolean `{b}`"
  | .integer n => s!"integer `{n}`"
  | .floating negative magnitude =>
    "floating point `" ++ (if negative then "-" else "") ++ Decimal.spell magnitude ++ "`"
  | .string s => "string " ++ quoted s
  | .sequence => "sequence"
  | .map => "map"

def Expected.describe : Expected → String
  | .string => "a string"
  | .map => "a map"
  | .record name => "struct " ++ name

/-- The wording of a cause. -/
def Cause.message : Cause → String
  | .unfinished what => "EOF while parsing " ++ what.describe
  | .expectedColon => "expected `:`"
  | .expectedCommaInList => "expected `,` or `]`"
  | .expectedCommaInObject => "expected `,` or `\x7d`"
  | .expectedWord => "expected ident"
  | .expectedValue => "expected value"
  | .invalidEscape => "invalid escape"
  | .invalidNumber => "invalid number"
  | .numberOutOfRange => "number out of range"
  | .invalidCodePoint => "invalid unicode code point"
  | .controlCharacter => "control character (\\u0000-\\u001F) found while parsing a string"
  | .keyNotString => "key must be a string"
  | .loneSurrogate => "lone leading surrogate in hex escape"
  | .unpairedSurrogate => "unexpected end of hex escape"
  | .trailingComma => "trailing comma"
  | .trailingCharacters => "trailing characters"
  | .nestingTooDeep => "recursion limit exceeded"
  | .wrongKind found expected => "invalid type: " ++ found.describe ++ ", expected " ++ expected.describe
  | .duplicateField name => "duplicate field `" ++ name ++ "`"

/-- The text of the steps after the first ones; keys are set off by points, positions by brackets. -/
def Step.describeAfter (before : String) : List Step → String
  | [] => ""
  | .key name :: more => before ++ name ++ describeAfter "." more
  | .index position :: more => "[" ++ toString position ++ "]" ++ describeAfter "." more
  | .unknown :: more => before ++ "?" ++ describeAfter "." more

/-- The text of a path; the root itself is a point. -/
def Failure.describePath (failure : Failure) : String :=
  if failure.path.isEmpty then "." else Step.describeAfter "" failure.path

/-- The place in `text` a failure was noticed at. -/
def Failure.place (failure : Failure) (text : Bytes) : Place :=
  Place.after (text.take (text.length - failure.unread))

/-- The wording of a failure in `text`, with its place. -/
def Failure.describe (failure : Failure) (text : Bytes) : String :=
  let place := failure.place text
  s!"{failure.cause.message} at line {place.line} column {place.column}"

/-- The failure seen from the value that `step` leads out of. -/
def Failure.within (step : Step) (failure : Failure) : Failure :=
  { failure with path := step :: failure.path }

end SchemaTypes.Json
