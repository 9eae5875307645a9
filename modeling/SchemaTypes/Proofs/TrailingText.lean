import SchemaTypes.Proofs.Json.Brackets
import SchemaTypes.Proofs.RoundTrip

/-!
# Text behind a document

A document ends with the bracket that closes it. What stands behind that bracket is not looked at until the document
has been read, and then nothing but blanks may stand there. So no document is the beginning of another one that goes
on behind its blanks.
-/

namespace SchemaTypes
set_option autoImplicit false

open Json (Reader)

namespace Schema

/-- The fields of a schema are settled if its children and properties are. -/
theorem settled_fields {child : Reader Schema} {properties : Reader (List (String × Schema))}
    (children : child.Settled) (entries : properties.Settled) :
    ∀ field ∈ fields child properties, ∀ s : Schema, (field.read s).Settled := by
  intro field mem s
  simp only [fields, List.mem_cons, List.not_mem_nil, or_false] at mem
  rcases mem with rfl | rfl | rfl | rfl | rfl | rfl | rfl
  · exact Json.settled_string.bind fun _ => .pure _
  · exact Json.settled_string.bind fun _ => .pure _
  · exact Json.settled_string.bind fun _ => .pure _
  · exact Json.settled_string.bind fun _ => .pure _
  · exact children.optional.bind fun _ => .pure _
  · exact children.optional.bind fun _ => .pure _
  · exact entries.optional.bind fun _ => .pure _

theorem settled_reader : ∀ levels : Nat, (reader levels).Settled
  | 0 => .of_settledAt fun s => by
    have refuses : (Json.record "Schema" none ({} : Schema)).Yields fun _ => False := .record_none
    exact Reader.SettledAt.refused refuses s
  | 1 => .of_settledAt fun s => by
    have entries : (Json.map none : Reader (List (String × Schema))).Settled := .refused .map_none
    exact Json.settledAt_record (settled_fields (settled_reader 0) entries) "Schema" {} s
  | levels + 2 => .of_settledAt fun s => by
    have entries := Reader.Settled.of_settledAt (Json.settledAt_map (settled_reader levels))
    exact Json.settledAt_record (settled_fields (settled_reader (levels + 1)) entries) "Schema" {} s

end Schema

namespace Document

theorem settled_fields {schemas : Reader (List (String × Schema))} (entries : schemas.Settled) :
    ∀ field ∈ fields schemas, ∀ doc : Document, (field.read doc).Settled := by
  intro field mem doc
  simp only [fields, List.mem_cons, List.not_mem_nil, or_false] at mem
  rcases mem with rfl | rfl
  · exact Json.settled_string.bind fun _ => .pure _
  · exact entries.bind fun _ => .pure _

/-- A document ends with its bracket, whatever follows it. -/
theorem settledAt_reader (levels : Nat) (s : Bytes) : (reader levels).SettledAt s := by
  unfold reader
  split
  · exact .refused .record_none s
  · exact Json.settledAt_record (settled_fields (.refused .map_none)) _ _ s
  · exact Json.settledAt_record (settled_fields (.of_settledAt (Json.settledAt_map (Schema.settled_reader _)))) _ _ s

end Document

/-- The whitespace of JSON: space, tab, line feed and carriage return. -/
def Json.whitespace : Bytes := [0x20, 0x09, 0x0a, 0x0d]

theorem Json.isBlank_iff {b : UInt8} : Reader.isBlank b = true ↔ b ∈ whitespace := by
  have codes : Ascii.space = 0x20 ∧ Ascii.tab = 0x09 ∧ Ascii.lineFeed = 0x0a ∧ Ascii.carriageReturn = 0x0d := by decide
  simp [Reader.isBlank, whitespace, codes, or_assoc, or_left_comm]

/-- **Nothing but whitespace may follow a document.** A text that is decoded is decoded alike with whitespace behind
it. With anything else behind it, it is refused at the root, for its trailing characters. So a text that is decoded is
refused if it is cut off before its last byte that is not whitespace. -/
theorem only_whitespace_follows {text : Bytes} {doc : Document} (accepted : Document.decode text = .ok doc) :
    (∀ behind : Bytes, (∀ b ∈ behind, b ∈ Json.whitespace) → Document.decode (text ++ behind) = .ok doc) ∧
    (∀ behind : Bytes, (∃ b ∈ behind, b ∉ Json.whitespace) → ∃ (failure : Json.Failure) (line column : Nat),
      Document.decode (text ++ behind) = .error failure ∧
      Defect.ofFailure (text ++ behind) failure = .malformed "."
        ("trailing characters" ++ (" at line " ++ toString line ++ " column " ++ toString column))) ∧
    ∀ kept cut : Bytes, kept ++ cut = text → (∃ b ∈ cut, b ∉ Json.whitespace) →
      ∀ other, Document.decode kept ≠ .ok other := by
  have followed {kept : Bytes} {other : Document} (accepted : Document.decode kept = .ok other) :=
    Json.whole_append (Document.settledAt_reader maxLevels) accepted
  have refused {kept behind : Bytes} {other : Document} (accepted : Document.decode kept = .ok other)
      (visible : ∃ b ∈ behind, b ∉ Json.whitespace) :
      ∃ unread, Document.decode (kept ++ behind) = .error ⟨.trailingCharacters, unread, []⟩ := by
    rw [Document.decode, followed accepted behind]
    split
    · next blank =>
      obtain ⟨b, mem, visible⟩ := visible
      exact absurd (Json.isBlank_iff.1 (List.dropWhile_eq_nil_iff.1 blank b mem)) visible
    · next more _ => exact ⟨more.length, rfl⟩
  refine ⟨?_, ?_, ?_⟩
  · intro behind blank
    have none_ : behind.dropWhile Reader.isBlank = [] :=
      List.dropWhile_eq_nil_iff.2 fun b mem => Json.isBlank_iff.2 (blank b mem)
    rw [Document.decode, followed accepted behind, none_]
  · intro behind visible
    obtain ⟨unread, failed⟩ := refused accepted visible
    exact ⟨_, _, _, failed, congrArg (Defect.malformed _) (Json.Failure.describe_eq _ _)⟩
  · rintro kept cut rfl visible other accepted'
    obtain ⟨unread, failed⟩ := refused accepted' visible
    cases failed.symm.trans accepted

/-- A document with members that are unknown beside its fields and beside those of a schema. -/
def versioned : Json.Value := .object [
  ("version", .list [.number ⟨false, 2, [], none⟩]),
  ("name", .string "store"),
  ("schemas", .object [
    ("Shelf", .object [("type", .string "object"), ("sealed", .boolean true), ("properties", .object [])])])]

/-- The text of this document holds it with a line feed behind it as well; with another brace behind it, it holds
none, and neither does it without its last brace. -/
theorem only_whitespace_follows_versioned :
    let text := Utf8.encode versioned.compact.toList
    let doc : Document := ⟨"store", [("Shelf", { kind := "object", properties := some [] })]⟩
    Document.decode text = .ok doc ∧ Document.decode (text ++ [0x0a]) = .ok doc ∧
      (∃ failure, Document.decode (text ++ [0x7d]) = .error failure) ∧
      ∀ other, Document.decode text.dropLast ≠ .ok other := by
  intro text doc
  have accepted : Document.decode text = .ok doc :=
    ((Document.reader_follows maxLevels).whole_eq_ok_iff (Json.writes_compact versioned)).2 rfl
  obtain ⟨alike, refused, cut⟩ := only_whitespace_follows accepted
  obtain ⟨failure, _, _, failed, -⟩ := refused [0x7d] ⟨0x7d, by decide, by decide⟩
  have lineFeed : ∀ b ∈ [0x0a], b ∈ Json.whitespace := by simp [Json.whitespace]
  have lastBrace : text.dropLast ++ [0x7d] = text := by decide +kernel
  exact ⟨accepted, alike _ lineFeed, ⟨failure, failed⟩, cut _ _ lastBrace ⟨0x7d, by decide, by decide⟩⟩

end SchemaTypes
