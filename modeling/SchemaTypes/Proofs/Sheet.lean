import SchemaTypes.Proofs.Traced
import SchemaTypes.Sheet

/-!
# What a document writes

A sheet takes over from a pass its ending and its declarations, and nothing else: the text that a document
adds is its header, the declarations of the pass, and the footer if the pass came to its end.
-/

namespace SchemaTypes
set_option autoImplicit false

/-- The footer of a document that came to its end; one that failed has none. -/
def Dialect.footerAfter (d : Dialect) : Except Defect Unit → String
  | .ok () => d.footer
  | .error _ => ""

namespace Sheet

variable (d : Dialect) (sheet : Sheet) (doc : Document)

@[simp] theorem result_writeDocument : (sheet.writeDocument d doc).2.result = doc.pass.ending := by
  unfold writeDocument
  cases ending : doc.pass.ending <;> simp [ending]

theorem declared_writeDocument :
    (sheet.writeDocument d doc).1.declared = sheet.declared + doc.pass.declarations.length := by
  unfold writeDocument
  cases ending : doc.pass.ending <;> simp [ending, addText, addDeclarations]

/-- What a document reports does not depend on the dialect. -/
theorem events_writeDocument :
    (sheet.writeDocument d doc).2.events =
      match doc.pass.ending with
      | .error _ => doc.pass.events
      | .ok () =>
        doc.pass.events ++ [.finished doc.name (sheet.declared + doc.pass.declarations.length)] := by
  unfold writeDocument
  cases ending : doc.pass.ending <;> simp [ending, addText, addDeclarations]

theorem text_writeDocument :
    (sheet.writeDocument d doc).1.text =
      sheet.text ++ d.header doc.name ++ d.spellDeclarations doc.pass.declarations ++
        d.footerAfter doc.pass.ending := by
  unfold writeDocument
  cases ending : doc.pass.ending <;> simp [ending, addText, addDeclarations, Dialect.footerAfter]

end Sheet

/-- A document generates its text just when its pass comes to its end. -/
theorem Document.result_generate (d : Dialect) (doc : Document) :
    (doc.generate d).result =
      doc.pass.ending.map fun _ =>
        d.header doc.name ++ d.spellDeclarations doc.pass.declarations ++ d.footer := by
  unfold generate
  rw [Traced.result_map, Sheet.result_writeDocument, Sheet.text_writeDocument]
  cases doc.pass.ending <;> simp [Except.map, Dialect.footerAfter]

end SchemaTypes
