import SchemaTypes.Proofs.Json.Running
import SchemaTypes.Proofs.Text.Utf8

/-!
# Reading strings

A string is read back from each of its spellings, and skipped over each of them. The loops take runs of bytes
that stand for themselves at once, so what is said of them allows for a run in front of the spelling.
-/

namespace SchemaTypes.Json
set_option autoImplicit false

open Ascii Reader

theorem isPlain_iff {b : UInt8} : isPlain b = true ↔ 0x20 ≤ b.toNat ∧ b.toNat ≠ 0x22 ∧ b.toNat ≠ 0x5c := by
  simp only [isPlain, bne_iff_ne, Bool.and_eq_true, decide_eq_true_eq, UInt8.le_iff_toNat_le, ne_eq,
    ← UInt8.toNat_inj, and_assoc]
  rfl

/-- A character that stands for itself has bytes that do. -/
theorem isPlain_of_mem_encodeChar {c : Char} (printed : 0x20 ≤ c.toNat) (noQuote : c ≠ '"')
    (noBackslash : c ≠ '\\') {b : UInt8} (mem : b ∈ String.utf8EncodeChar c) : isPlain b = true := by
  have quote_ne : c.toNat ≠ 0x22 := fun same => noQuote (Char.toNat_inj.1 same)
  have backslash_ne : c.toNat ≠ 0x5c := fun same => noBackslash (Char.toNat_inj.1 same)
  rw [isPlain_iff]
  by_cases ascii : c.toNat < 0x80
  · rw [Utf8.encodeChar_ascii ascii, List.mem_singleton] at mem
    have value : b.toNat = c.toNat := by
      rw [mem, Ascii.byte, UInt8.toNat_ofNat']
      omega
    omega
  · have high := Utf8.le_of_mem_encodeChar (by omega) mem
    omega

namespace SpellsUnit

variable {n : Nat} {s r : Bytes}

theorem run_hexQuad (unit : SpellsUnit n s r) : hexQuad.run s = .ok (n, r) := by
  cases unit with
  | intro first second third fourth => simp [run_eq, hexQuad, first, second, third, fourth]

end SpellsUnit

/-- The letter of an escape by code unit names no character. -/
theorem letterEscape?_unit : letterEscape? (byte 'u') = none := rfl

section escapes

variable {n m : Nat} {s t r : Bytes} {b : UInt8} {c : Char}

theorem run_escape_letter (named : letterEscape? b = some c) (s : Bytes) : escape.run (b :: s) = .ok (c, s) := by
  rw [escape, run_bind_ok (run_next b s)]
  simp only [named, run_pure]

/-- An escape by code unit goes on with its digits. -/
theorem run_escape_unit (s : Bytes) : escape.run (byte 'u' :: s) = unitEscape.run s := by
  rw [escape, run_bind_ok (run_next _ s)]
  simp only [letterEscape?_unit, if_true]

theorem run_unitEscape_single (unit : SpellsUnit c.toNat s r) : unitEscape.run s = .ok (c, r) := by
  have single : c.toNat < 0xd800 ∨ 0xdfff < c.toNat := c.valid.imp id And.left
  rw [unitEscape, run_bind_ok unit.run_hexQuad, if_neg (by omega), if_pos (by omega), run_pure, Char.ofNat_toNat]

theorem run_expectInPair (b : UInt8) (s : Bytes) : (expectInPair b).run (b :: s) = .ok ((), s) := by
  rw [expectInPair, run_bind_ok (run_next b s)]
  simp only [if_true, run_pure]

theorem run_unitEscape_pair (leading : SpellsUnit m s (backslash :: byte 'u' :: t))
    (high : 0xd800 ≤ m ∧ m ≤ 0xdbff) (trailing : SpellsUnit n t r) (low : 0xdc00 ≤ n ∧ n ≤ 0xdfff)
    (joined : c.toNat = (m - 0xd800) * 0x400 + (n - 0xdc00) + 0x10000) : unitEscape.run s = .ok (c, r) := by
  rw [unitEscape, run_bind_ok leading.run_hexQuad, if_neg (by omega), if_neg (by omega),
    run_bind_ok (run_expectInPair _ _), run_bind_ok (run_expectInPair _ _), run_bind_ok trailing.run_hexQuad,
    if_neg (by omega), run_pure, ← joined, Char.ofNat_toNat]

theorem run_skipEscape_letter (named : letterEscape? b = some c) (s : Bytes) :
    skipEscape.run (b :: s) = .ok ((), s) := by
  rw [skipEscape, run_bind_ok (run_next b s)]
  simp only [named, Option.isSome_some, if_true, run_pure]

theorem run_skipEscape_unit (unit : SpellsUnit n s r) : skipEscape.run (byte 'u' :: s) = .ok ((), r) := by
  rw [skipEscape, run_bind_ok (run_next _ s)]
  simp only [letterEscape?_unit, Option.isSome_none, Bool.false_eq_true, if_false, if_true]
  rw [run_bind_ok unit.run_hexQuad, run_pure]

end escapes

section loops

variable {n : Nat} {before run s r r' : Bytes} {c : Char}

/-- A run of bytes of a class ends in front of a byte that is not of it. -/
theorem dropWhile_run {p : UInt8 → Bool} {b : UInt8} (within : ∀ b ∈ run, p b = true) (stop : p b = false) :
    (run ++ b :: s).dropWhile p = b :: s ∧ (run ++ b :: s).takeWhile p = run := by
  constructor
  · rw [List.dropWhile_append_of_pos within, List.dropWhile_cons, stop, if_neg Bool.false_ne_true]
  · rw [List.takeWhile_append_of_pos within, List.takeWhile_cons, stop, if_neg Bool.false_ne_true,
      List.append_nil]

/-- What is left behind an escape is within the bound of the text. -/
theorem length_behind_escape {α : Type} {reader : Reader α} {value : α} (escaped : reader.run r = .ok (value, r'))
    (bound : (run ++ backslash :: r).length ≤ n) : r'.length ≤ n := by
  obtain ⟨within, _⟩ := run_eq_ok escaped
  simp only [List.length_append, List.length_cons] at bound
  omega

theorem contentOnto_quote (plain : ∀ b ∈ run, isPlain b = true) (bound : (run ++ quote :: r).length ≤ n) :
    unbounded (contentOnto before (run ++ quote :: r) bound) = .ok (run.reverse ++ before, r) := by
  obtain ⟨rest, taken⟩ := dropWhile_run plain (s := r) (b := quote) rfl
  unfold contentOnto
  split
  · next behind => cases rest.symm.trans behind
  · next behind =>
    cases rest.symm.trans behind
    rw [if_pos rfl, unbounded_ok, List.reverseAux_eq, taken]

/-- An escape is read onto the content before it. -/
theorem contentOnto_escape (plain : ∀ b ∈ run, isPlain b = true) (escaped : escape.run r = .ok (c, r'))
    (bound : (run ++ backslash :: r).length ≤ n) :
    unbounded (contentOnto before (run ++ backslash :: r) bound) =
      unbounded (contentOnto ((String.utf8EncodeChar c).reverse ++ (run.reverse ++ before)) r'
        (length_behind_escape escaped bound)) := by
  obtain ⟨rest, taken⟩ := dropWhile_run plain (s := r) (b := backslash) rfl
  obtain ⟨_, escaped⟩ := run_eq_ok escaped
  rw [contentOnto.eq_def]
  split
  · next behind => cases rest.symm.trans behind
  · next behind =>
    cases rest.symm.trans behind
    rw [if_neg (by decide), if_pos rfl, escaped]
    simp only [List.reverseAux_eq, taken]

theorem skipChars_quote (plain : ∀ b ∈ run, isPlain b = true) (bound : (run ++ quote :: r).length ≤ n) :
    unbounded (skipChars (run ++ quote :: r) bound) = .ok ((), r) := by
  obtain ⟨rest, _⟩ := dropWhile_run plain (s := r) (b := quote) rfl
  unfold skipChars
  split
  · next behind => cases rest.symm.trans behind
  · next behind =>
    cases rest.symm.trans behind
    rw [if_pos rfl, unbounded_ok]

/-- A skip goes on behind an escape. -/
theorem skipChars_escape (plain : ∀ b ∈ run, isPlain b = true) (escaped : skipEscape.run r = .ok ((), r'))
    (bound : (run ++ backslash :: r).length ≤ n) :
    unbounded (skipChars (run ++ backslash :: r) bound) =
      unbounded (skipChars r' (length_behind_escape escaped bound)) := by
  obtain ⟨rest, _⟩ := dropWhile_run plain (s := r) (b := backslash) rfl
  obtain ⟨_, escaped⟩ := run_eq_ok escaped
  rw [skipChars.eq_def]
  split
  · next behind => cases rest.symm.trans behind
  · next behind =>
    cases rest.symm.trans behind
    rw [if_neg (by decide), if_pos rfl, escaped]

end loops

namespace SpellsChars

variable {n : Nat} {cs : List Char} {s r : Bytes}

/-- The content of a string is the bytes of its characters, whichever way these are spelled. -/
theorem contentOnto (chars : SpellsChars cs s r) (before run : Bytes) (plain : ∀ b ∈ run, isPlain b = true)
    (bound : (run ++ s).length ≤ n) :
    unbounded (Json.contentOnto before (run ++ s) bound) =
      .ok ((Utf8.encode cs).reverse ++ (run.reverse ++ before), r) := by
  have escaped {c : Char} {cs : List Char} {before : Bytes} : (Utf8.encode cs).reverse ++
      ((String.utf8EncodeChar c).reverse ++ before) = (Utf8.encode (c :: cs)).reverse ++ before := by
    simp
  induction chars generalizing before run with
  | close => exact contentOnto_quote plain bound
  | @plain c cs s r printed noQuote noBackslash _ ih =>
    have plain' : ∀ b ∈ run ++ String.utf8EncodeChar c, isPlain b = true := by
      intro b mem
      rcases List.mem_append.1 mem with mem | mem
      · exact plain b mem
      · exact isPlain_of_mem_encodeChar printed noQuote noBackslash mem
    have read := ih before _ plain' (by rwa [List.append_assoc])
    simp only [List.append_assoc, List.reverse_append, escaped] at read
    exact read
  | letter named _ ih =>
    rw [contentOnto_escape plain (run_escape_letter named _) bound, ← escaped]
    exact ih _ [] (by simp) _
  | unit unit _ ih =>
    rw [contentOnto_escape plain ((run_escape_unit _).trans (run_unitEscape_single unit)) bound, ← escaped]
    exact ih _ [] (by simp) _
  | pair leading high trailing low joined _ ih =>
    rw [contentOnto_escape plain ((run_escape_unit _).trans (run_unitEscape_pair leading high trailing low joined))
      bound, ← escaped]
    exact ih _ [] (by simp) _

/-- **A string is read back from each of its spellings.** -/
theorem run_openString (chars : SpellsChars cs s r) : openString.run s = .ok (String.ofList cs, r) := by
  have content := chars.contentOnto [] [] (by simp) (length_le_self s)
  simp only [List.nil_append, List.reverse_nil, List.append_nil] at content
  rw [run_eq, openString]
  split
  · next failed =>
    rw [failed] at content
    cases content
  · next read =>
    rw [read] at content
    cases content
    simp only [List.reverse_reverse, Utf8.decodeOnto_encode, unbounded_ok]

/-- The spelling of a string is skipped; of the two units of a pair, each is skipped as an escape of its own. -/
theorem skipChars (chars : SpellsChars cs s r) (run : Bytes) (plain : ∀ b ∈ run, isPlain b = true)
    (bound : (run ++ s).length ≤ n) : unbounded (Json.skipChars (run ++ s) bound) = .ok ((), r) := by
  induction chars generalizing run with
  | close => exact skipChars_quote plain bound
  | @plain c cs s r printed noQuote noBackslash _ ih =>
    have plain' : ∀ b ∈ run ++ String.utf8EncodeChar c, isPlain b = true := by
      intro b mem
      rcases List.mem_append.1 mem with mem | mem
      · exact plain b mem
      · exact isPlain_of_mem_encodeChar printed noQuote noBackslash mem
    have read := ih _ plain' (by rwa [List.append_assoc])
    simp only [List.append_assoc] at read
    exact read
  | letter named _ ih =>
    rw [skipChars_escape plain (run_skipEscape_letter named _) bound]
    exact ih [] (by simp) _
  | unit unit _ ih =>
    rw [skipChars_escape plain (run_skipEscape_unit unit) bound]
    exact ih [] (by simp) _
  | pair leading _ trailing _ _ _ ih =>
    rw [skipChars_escape plain (run_skipEscape_unit leading) bound]
    have again := run_skipEscape_unit trailing
    refine (skipChars_escape (n := n) (List.forall_mem_nil _) again _).trans ?_
    exact ih [] (by simp) _

theorem run_skipString (chars : SpellsChars cs s r) : skipString.run s = .ok ((), r) := by
  rw [run_eq]
  exact chars.skipChars [] (by simp) (length_le_self s)

end SpellsChars

end SchemaTypes.Json
