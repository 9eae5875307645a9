import SchemaTypes.Proofs.Sheet
import SchemaTypes.Proofs.SingleDeclaration

/-!
# A sheet remembers only what is on it

Documents and single declarations are written on one sheet in any order, and each of them may fail on its way. What
an entry puts on a sheet are pieces of text that depend on the entry alone: headers, blocks of declarations, and
footers. So a sheet is what was put on it, piece by piece, with its blocks counted, and an entry ends as it does on an
empty sheet. Names are kept apart inside one document only.
-/

namespace SchemaTypes
set_option autoImplicit false

namespace Sheet

/-- What is written on a sheet: a whole document, or the declaration of a schema. -/
inductive Entry where
  | document (doc : Document)
  | declaration (s : Schema)

/-- How the writing of an entry ends. A declaration tells what it lifts out. -/
inductive Reply where
  | document (result : Except Defect Unit)
  | declaration (result : Except Defect (List Schema))

/-- Writes an entry. -/
def write (d : Dialect) (sheet : Sheet) : Entry → Sheet × Reply
  | .document doc =>
    let (written, outcome) := sheet.writeDocument d doc
    (written, .document outcome.result)
  | .declaration s =>
    let (written, outcome) := sheet.writeDeclaration d s
    (written, .declaration outcome.result)

/-- Writes entries one after the other; one that fails does not end it. -/
def writeAll (d : Dialect) (sheet : Sheet) : List Entry → Sheet × List Reply
  | [] => (sheet, [])
  | entry :: more =>
    let (written, reply) := sheet.write d entry
    let (last, replies) := writeAll d written more
    (last, reply :: replies)

/-! ## Pieces of text -/

/-- A piece of the text on a sheet. -/
inductive Piece where
  | header (document : String)
  | block (declaration : Declaration)
  | footer

namespace Piece

/-- The text of a piece. -/
def spell (d : Dialect) : Piece → String
  | header document => d.header document
  | block declaration => d.spellDeclaration declaration
  | footer => d.footer

/-- Whether a piece is the block of a declaration. -/
def isBlock : Piece → Bool
  | block _ => true
  | _ => false

/-- The pieces at the end of a document: a footer, unless the document failed. -/
def closing : Except Defect Unit → List Piece
  | .ok () => [footer]
  | .error _ => []

end Piece

namespace Entry

/-- What an entry puts on a sheet. A document puts there its header, the declarations of its pass, also if the pass
fails behind them, and the footer if it does not; a declaration is put there unless it fails. -/
def pieces : Entry → List Piece
  | document doc => .header doc.name :: doc.pass.declarations.map .block ++ Piece.closing doc.pass.ending
  | declaration s =>
    match s.declare.result with
    | .ok (made, _) => [.block made]
    | .error _ => []

/-- How an entry ends. -/
def reply : Entry → Reply
  | document doc => .document doc.pass.ending
  | declaration s => .declaration (s.declare.result.map Prod.snd)

end Entry

variable (d : Dialect) (sheet : Sheet)

/-- Puts pieces on a sheet and counts the blocks among them. -/
def addPieces (pieces : List Piece) : Sheet where
  text := sheet.text ++ String.join (pieces.map (Piece.spell d))
  declared := sheet.declared + pieces.countP Piece.isBlock

@[simp] theorem text_addPieces (pieces : List Piece) :
    (sheet.addPieces d pieces).text = sheet.text ++ String.join (pieces.map (Piece.spell d)) := rfl

@[simp] theorem declared_addPieces (pieces : List Piece) :
    (sheet.addPieces d pieces).declared = sheet.declared + pieces.countP Piece.isBlock := rfl

@[simp] theorem addPieces_nil : sheet.addPieces d [] = sheet := by
  simp [addPieces]

theorem addPieces_append (xs ys : List Piece) :
    sheet.addPieces d (xs ++ ys) = (sheet.addPieces d xs).addPieces d ys := by
  simp [addPieces, String.append_assoc, Nat.add_assoc]

theorem addPieces_blocks (declarations : List Declaration) :
    sheet.addPieces d (declarations.map .block) = sheet.addDeclarations d declarations := by
  have spelled : Piece.spell d ∘ Piece.block = d.spellDeclaration := rfl
  have counted : Piece.isBlock ∘ Piece.block = fun _ => true := rfl
  simp [addPieces, addDeclarations, Dialect.spellDeclarations, List.countP_map, spelled, counted]

theorem addPieces_header (document : String) :
    sheet.addPieces d [.header document] = sheet.addText (d.header document) := by
  simp [addPieces, addText, Piece.spell, Piece.isBlock]

theorem addPieces_footer : sheet.addPieces d [.footer] = sheet.addText d.footer := by
  simp [addPieces, addText, Piece.spell, Piece.isBlock]

/-! ## Entries -/

theorem write_document (doc : Document) :
    sheet.write d (.document doc) =
      ((sheet.writeDocument d doc).1, .document (sheet.writeDocument d doc).2.result) := rfl

theorem write_declaration (s : Schema) :
    sheet.write d (.declaration s) =
      ((sheet.writeDeclaration d s).1, .declaration (sheet.writeDeclaration d s).2.result) := rfl

theorem writeAll_cons (entry : Entry) (more : List Entry) :
    sheet.writeAll d (entry :: more) =
      (((sheet.write d entry).1.writeAll d more).1,
        (sheet.write d entry).2 :: ((sheet.write d entry).1.writeAll d more).2) := rfl

/-- **What one entry does**: it puts its pieces on the sheet and ends in its own way, whatever is there already. -/
theorem write_eq (entry : Entry) : sheet.write d entry = (sheet.addPieces d entry.pieces, entry.reply) := by
  cases entry with
  | document doc =>
    rw [Entry.pieces, ← List.singleton_append, List.append_assoc, addPieces_append, addPieces_append,
      addPieces_header, addPieces_blocks, write_document, writeDocument, Entry.reply]
    cases doc.pass.ending with
    | error defect =>
      rw [Piece.closing, addPieces_nil]
    | ok =>
      rw [Piece.closing, addPieces_footer]
  | declaration s =>
    rw [write_declaration, Entry.pieces, Entry.reply]
    cases declared : s.declare.result with
    | error defect =>
      obtain ⟨kept, result⟩ := sheet.writeDeclaration_of_error d declared
      rw [kept, result, addPieces_nil]
      rfl
    | ok outcome =>
      obtain ⟨made, lifted⟩ := outcome
      obtain ⟨added, result⟩ := sheet.writeDeclaration_of_ok d declared
      rw [added, result, ← addPieces_blocks]
      rfl

/-- **What entries do one after the other**: their pieces are put on the sheet in turn. -/
theorem writeAll_eq (entries : List Entry) :
    sheet.writeAll d entries = (sheet.addPieces d (entries.flatMap Entry.pieces), entries.map Entry.reply) := by
  induction entries generalizing sheet with
  | nil => rw [writeAll, List.flatMap_nil, addPieces_nil, List.map_nil]
  | cons entry more ih =>
    rw [writeAll_cons, write_eq, ih, List.flatMap_cons, addPieces_append, List.map_cons]

/-- The pieces of an entry, as they are put on an empty sheet. -/
theorem text_write_empty (entry : Entry) :
    (write d {} entry).1.text = String.join (entry.pieces.map (Piece.spell d)) := by
  rw [write_eq, text_addPieces, String.empty_append]

theorem declared_write_empty (entry : Entry) :
    (write d {} entry).1.declared = entry.pieces.countP Piece.isBlock := by
  rw [write_eq, declared_addPieces, Nat.zero_add]

theorem join_flatMap_pieces (entries : List Entry) :
    String.join ((entries.flatMap Entry.pieces).map (Piece.spell d)) =
      String.join (entries.map fun entry => String.join (entry.pieces.map (Piece.spell d))) := by
  induction entries with
  | nil => rfl
  | cons entry more ih =>
    rw [List.flatMap_cons, List.map_append, String.join_append, ih, List.map_cons, String.join_cons]

/-- A document that generates a text puts this text on any sheet. -/
theorem write_of_generate {doc : Document} {text : String} (generated : (doc.generate d).result = .ok text) :
    (sheet.write d (.document doc)).1.text = sheet.text ++ text ∧
      (sheet.write d (.document doc)).2 = .document (.ok ()) := by
  rw [Document.result_generate] at generated
  obtain ⟨⟨⟩, ending, rfl⟩ := map_eq_ok.1 generated
  constructor
  · rw [write_document, text_writeDocument, ending]
    simp only [Dialect.footerAfter, String.append_assoc]
  · rw [write_eq, Entry.reply, ending]

/-- **A sheet remembers only what is on it.** Whatever was written before, with failures anywhere, an entry ends as it
does on an empty sheet, and adds the same text and the same number of declarations; what was on the sheet stays there.
So the text is that of all entries in turn, each as on an empty sheet, and the number is that of the blocks of
declarations in it. Two documents that generate their texts do so on one sheet, whichever names they declare. -/
theorem sheet_remembers_only_its_text (entries : List Entry) :
    (∀ before entry after, entries = before ++ entry :: after →
      let sheet := (writeAll d {} before).1
      (sheet.write d entry).2 = (write d {} entry).2 ∧
        (sheet.write d entry).1.text = sheet.text ++ (write d {} entry).1.text ∧
        (sheet.write d entry).1.declared = sheet.declared + (write d {} entry).1.declared ∧
        ∃ more, (writeAll d {} entries).1.text = sheet.text ++ (write d {} entry).1.text ++ more) ∧
      (writeAll d {} entries).2 = entries.map (fun entry => (write d {} entry).2) ∧
      (writeAll d {} entries).1.text = String.join (entries.map fun entry => (write d {} entry).1.text) ∧
      (writeAll d {} entries).1.text = String.join ((entries.flatMap Entry.pieces).map (Piece.spell d)) ∧
      (writeAll d {} entries).1.declared = (entries.flatMap Entry.pieces).countP Piece.isBlock ∧
      ∀ doc doc' : Document, ∀ text text' : String,
        (doc.generate d).result = .ok text → (doc'.generate d).result = .ok text' →
          (writeAll d {} [.document doc, .document doc']).1.text = text ++ text' ∧
            (writeAll d {} [.document doc, .document doc']).2 = [.document (.ok ()), .document (.ok ())] := by
  refine ⟨?_, ?_, ?_, ?_, ?_, ?_⟩
  · rintro before entry after rfl
    intro sheet
    have here := text_write_empty d entry
    have counted := declared_write_empty d entry
    have sofar : sheet = addPieces d {} (before.flatMap Entry.pieces) := congrArg Prod.fst (writeAll_eq d {} before)
    refine ⟨?_, ?_, ?_, String.join ((after.flatMap Entry.pieces).map (Piece.spell d)), ?_⟩
    · rw [write_eq, write_eq]
    · rw [here, write_eq, text_addPieces]
    · rw [counted, write_eq, declared_addPieces]
    · rw [here, writeAll_eq, List.flatMap_append, List.flatMap_cons, addPieces_append, addPieces_append,
        text_addPieces, text_addPieces, ← sofar]
  · rw [writeAll_eq]
    exact List.map_congr_left fun entry _ => (congrArg Prod.snd (write_eq d {} entry)).symm
  · rw [writeAll_eq, text_addPieces, String.empty_append, join_flatMap_pieces]
    simp only [text_write_empty]
  · rw [writeAll_eq, text_addPieces, String.empty_append]
  · rw [writeAll_eq, declared_addPieces, Nat.zero_add]
  · intro doc doc' text text' generated generated'
    obtain ⟨first, done⟩ := write_of_generate d {} generated
    obtain ⟨second, done'⟩ := write_of_generate d (write d {} (.document doc)).1 generated'
    rw [writeAll_cons, writeAll_cons, done, done']
    refine ⟨?_, rfl⟩
    show (write d (write d {} (.document doc)).1 (.document doc')).1.text = _
    rw [second, first, String.empty_append]

end Sheet

end SchemaTypes
