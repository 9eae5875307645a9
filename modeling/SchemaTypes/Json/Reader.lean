import SchemaTypes.Json.Failure

/-!
# Readers

A reader takes a value from the front of a text and leaves the rest, which is never longer than what
it was given; loops over a text end because of that. A failure counts either the bytes read before it,
or these and the byte that was looked at next.
-/

namespace SchemaTypes.Json
set_option autoImplicit false

/-- A text of at most `n` bytes. -/
abbrev UpTo (n : Nat) := { r : Bytes // r.length ≤ n }

/-- What is left of `s` after reading from it. -/
abbrev Rest (s : Bytes) := UpTo s.length

/-- Reads a value from the front of a text. -/
def Reader (α : Type) := (s : Bytes) → Except Failure (α × Rest s)

theorem length_le_self (s : Bytes) : s.length ≤ s.length :=
  Nat.le_refl s.length

namespace Reader

variable {α β : Type}

/-- The value and the rest, without the bound on the rest. -/
def run (reader : Reader α) (s : Bytes) : Except Failure (α × Bytes) :=
  (reader s).map fun (value, rest) => (value, rest.val)

/-- Reads nothing. -/
protected def pure (value : α) : Reader α := fun s => .ok (value, ⟨s, length_le_self s⟩)

/-- Reads with one reader and then with the one its value selects. -/
protected def bind (reader : Reader α) (next : α → Reader β) : Reader β := fun s =>
  match reader s with
  | .error failure => .error failure
  | .ok (value, rest) =>
    match next value rest.val with
    | .error failure => .error failure
    | .ok (value, rest') => .ok (value, ⟨rest'.val, Nat.le_trans rest'.property rest.property⟩)

instance : Monad Reader where
  pure := Reader.pure
  bind := Reader.bind

/-- Fails at the bytes read so far. -/
def failHere (cause : Cause) : Reader α := fun s => .error ⟨cause, s.length, []⟩

/-- Fails with the next byte counted in, if there is one. -/
def failAtNext (cause : Cause) : Reader α := fun s => .error ⟨cause, s.length - 1, []⟩

/-- Reads a value that `step` leads to. -/
def within (step : Step) (reader : Reader α) : Reader α := fun s =>
  match reader s with
  | .error failure => .error (failure.within step)
  | .ok result => .ok result

/-- The next byte, which is not taken. -/
def peek : Reader (Option UInt8) := fun s => .ok (s.head?, ⟨s, length_le_self s⟩)

/-- Takes the next byte; at the end of the text there is none. -/
def next : Reader (Option UInt8)
  | [] => .ok (none, ⟨[], length_le_self []⟩)
  | b :: r => .ok (some b, ⟨r, Nat.le_succ _⟩)

/-- Takes the next byte, whatever it is. -/
def advance : Reader Unit := do
  let _ ← next

/-- Takes `n` bytes. -/
def skip (n : Nat) : Reader Unit := fun s =>
  .ok ((), ⟨s.drop n, by simp⟩)

/-- What `reader` reads, of which nothing is taken. -/
def look (reader : Reader α) : Reader α := fun s =>
  match reader s with
  | .error failure => .error failure
  | .ok (value, _) => .ok (value, ⟨s, length_le_self s⟩)

/-- Whether a byte is blank between the parts of a text. -/
def isBlank (b : UInt8) : Bool :=
  b == Ascii.space || b == Ascii.lineFeed || b == Ascii.tab || b == Ascii.carriageReturn

/-- Takes the bytes of a class at the front. -/
def takeWhile (p : UInt8 → Bool) : Reader Bytes := fun s =>
  .ok (s.takeWhile p, ⟨s.dropWhile p, (List.dropWhile_sublist p).length_le⟩)

/-- Skips blanks and looks at the byte behind them. -/
def peekToken : Reader (Option UInt8) := do
  let _ ← takeWhile isBlank
  peek

/-- Takes the bytes of `word`, of which the first has been seen. -/
def word : Bytes → Reader Unit
  | [] => pure ()
  | b :: more => do
    match ← next with
    | none => failHere (.unfinished .value)
    | some found => if found = b then word more else failHere .expectedWord

end Reader

/-- Behind the first byte that follows a run stands less than the text the run begins. -/
theorem length_behind {p : UInt8 → Bool} {s r : Bytes} {b : UInt8} (behind : s.dropWhile p = b :: r) :
    r.length < s.length := by
  have bound := (List.dropWhile_sublist p (l := s)).length_le
  simp only [behind, List.length_cons] at bound
  omega

/-- What is left of a text keeps within the bound of the text. -/
theorem length_rest_le {n : Nat} {s r : Bytes} (bound : s.length ≤ n) (within : r.length ≤ s.length) :
    r.length ≤ n :=
  Nat.le_trans within bound

theorem length_behind_le {n : Nat} {s r : Bytes} (bound : s.length ≤ n) (shorter : r.length < s.length) :
    r.length ≤ n :=
  Nat.le_trans (Nat.le_of_lt shorter) bound

/-- Reading on from the byte in front of `r` leaves no more than there was. -/
theorem length_key_le {s r r' : Bytes} {b : UInt8} (shorter : r.length < s.length)
    (within : r'.length ≤ (b :: r).length) : r'.length ≤ s.length :=
  Nat.le_trans within shorter

end SchemaTypes.Json
