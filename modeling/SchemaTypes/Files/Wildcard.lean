/-!
# Wildcard patterns

In a pattern `?` stands for one character, `*` for any number of them, and brackets for one character of
a class, or outside of it if `!` comes first; in a class a hyphen makes a range. Two stars have to be a
whole piece of a path and stand for any number of directories.
-/

namespace SchemaTypes.Files.Wildcard
set_option autoImplicit false

/-- A part of a class of characters. -/
inductive ClassItem where
  | single (c : Char)
  | range (first last : Char)
deriving DecidableEq, Repr

/-- A part of a pattern. -/
inductive Token where
  | literal (c : Char)
  | anyChar
  | anySequence
  | anyDirectories
  | within (items : List ClassItem)
  | except (items : List ClassItem)
deriving DecidableEq, Repr

/-- What is wrong with a pattern. -/
inductive Problem where
  | tooManyStars
  | starsNotAlone
  | invalidRange
deriving DecidableEq, Repr

/-- A refused pattern: what is wrong and near which character. -/
structure Mistake where
  problem : Problem
  position : Nat
deriving DecidableEq, Repr

/-- The wording of a problem. -/
def Problem.message : Problem → String
  | .tooManyStars => "wildcards are either regular `*` or recursive `**`"
  | .starsNotAlone => "recursive wildcards must form a single path component"
  | .invalidRange => "invalid range pattern"

/-- The wording of a refusal. -/
def Mistake.message (mistake : Mistake) : String :=
  s!"Pattern syntax error near position {mistake.position}: {mistake.problem.message}"

/-- The items of a class. -/
def classItems : List Char → List ClassItem
  | first :: '-' :: last :: more => .range first last :: classItems more
  | c :: more => .single c :: classItems more
  | [] => []

/-- Whether `c` belongs to a class. -/
def ClassItem.contains (c : Char) : ClassItem → Bool
  | single d => c == d
  | range first last => first ≤ c && c ≤ last

/-- The class behind an opening bracket and what follows its closing one, which is not looked for in the
first character of the class. -/
def classBehind : List Char → Option (Token × List Char)
  | '!' :: c :: more =>
    match more.dropWhile (· != ']') with
    | [] => none
    | _ :: rest => some (.except (classItems (c :: more.takeWhile (· != ']'))), rest)
  | '!' :: [] => none
  | c :: more =>
    match more.dropWhile (· != ']') with
    | [] => none
    | _ :: rest => some (.within (classItems (c :: more.takeWhile (· != ']'))), rest)
  | [] => none

/-- A class takes at least one character. -/
theorem length_classBehind {chars rest : List Char} {token : Token}
    (found : classBehind chars = some (token, rest)) : rest.length < chars.length := by
  have shorter {more : List Char} {c : Char} {tail : List Char}
      (behind : more.dropWhile (· != ']') = c :: tail) : tail.length < more.length := by
    have bound := (List.dropWhile_sublist (· != ']') (l := more)).length_le
    simp only [behind, List.length_cons] at bound
    omega
  unfold classBehind at found
  split at found
  · split at found
    · cases found
    · next behind =>
      cases found
      have := shorter behind
      simp only [List.length_cons]
      omega
  · cases found
  · split at found
    · cases found
    · next behind =>
      cases found
      have := shorter behind
      simp only [List.length_cons]
      omega
  · cases found

/-- The tokens of the characters from `position` on, which `before` stands in front of. -/
def tokensFrom (before : Option Char) (position : Nat) (chars : List Char) :
    Except Mistake (List Token) :=
  match chars with
  | [] => .ok []
  | '*' :: '*' :: '*' :: _ => .error ⟨.tooManyStars, position + 2⟩
  | '*' :: '*' :: more =>
    if before.any (· != '/') then .error ⟨.starsNotAlone, position - 1⟩
    else
      match more with
      | [] => .ok [.anyDirectories]
      | '/' :: more => (tokensFrom (some '/') (position + 3) more).map (.anyDirectories :: ·)
      | _ :: _ => .error ⟨.starsNotAlone, position + 2⟩
  | '*' :: more => (tokensFrom (some '*') (position + 1) more).map (.anySequence :: ·)
  | '?' :: more => (tokensFrom (some '?') (position + 1) more).map (.anyChar :: ·)
  | '[' :: more =>
    match found : classBehind more with
    | none => .error ⟨.invalidRange, position⟩
    | some (token, rest) =>
      have := length_classBehind found
      (tokensFrom (some ']') (position + 1 + (more.length - rest.length)) rest).map (token :: ·)
  | c :: more => (tokensFrom (some c) (position + 1) more).map (.literal c :: ·)
termination_by chars.length

/-- The tokens of a pattern. -/
def tokens (pattern : String) : Except Mistake (List Token) :=
  tokensFrom none 0 pattern.toList

/-- Whether one character matches a token for one character. -/
def Token.acceptsChar (c : Char) : Token → Bool
  | literal d => c == d
  | anyChar => true
  | within items => items.any (·.contains c)
  | except items => !items.any (·.contains c)
  | anySequence | anyDirectories => false

/-- What is left of some characters behind each front part of them, the longest rest first. -/
def ends : List Char → List (List Char)
  | [] => [[]]
  | c :: more => (c :: more) :: ends more

/-- What may be left behind a token that begins at one of some rests of one text. The longest rest comes first,
and what any number of characters leave of a shorter one they also leave of it. -/
def Token.behind (token : Token) (rests : List (List Char)) : List (List Char) :=
  if token = .anySequence ∨ token = .anyDirectories then (rests.head?.map ends).getD []
  else
    rests.filterMap fun rest =>
      match rest with
      | [] => none
      | c :: more => if token.acceptsChar c then some more else none

/-- Whether characters match tokens: nothing may be left behind the last one. -/
def accepts (tokens : List Token) (chars : List Char) : Bool :=
  (tokens.foldl (fun rests token => token.behind rests) [chars]).any (·.isEmpty)

/-- A piece of a pattern: a name, a pattern for names, or any number of directories. -/
inductive Piece where
  | name (text : String)
  | wild (tokens : List Token)
  | directories
deriving DecidableEq, Repr

/-- The text of tokens that are all literal. -/
def literalText? : List Token → Option (List Char)
  | [] => some []
  | .literal c :: more => (literalText? more).map (c :: ·)
  | _ :: _ => none

/-- The piece that tokens make up. -/
def Piece.ofTokens (tokens : List Token) : Piece :=
  if tokens.contains .anyDirectories then .directories
  else
    match literalText? tokens with
    | some text => .name (String.ofList text)
    | none => .wild tokens

namespace Piece

/-- Whether a name matches a piece; directories are matched apart from names. -/
def accepts (name : String) : Piece → Bool
  | .name text => text == name
  | .wild tokens => Wildcard.accepts tokens name.toList
  | .directories => true

/-- Whether a piece may match the point and the two points: these it has to spell with a point first. -/
def acceptsDots (name : String) : Piece → Bool
  | .wild tokens => tokens.head? == some (.literal '.') && Wildcard.accepts tokens name.toList
  | _ => false

end Piece

end SchemaTypes.Files.Wildcard
