import SchemaTypes.Dialect
import SchemaTypes.Pass
import SchemaTypes.Schema.Decoding

/-!
# Sheets

A sheet collects the text of declarations and counts them. A document that fails leaves its header and
the declarations made before the failure; a declaration that fails leaves nothing.
-/

namespace SchemaTypes
set_option autoImplicit false

/-- The text written so far and the number of declarations in it. -/
structure Sheet where
  text : String := ""
  declared : Nat := 0
deriving DecidableEq, Repr

namespace Sheet

/-- Adds declarations to a sheet. -/
def addDeclarations (d : Dialect) (sheet : Sheet) (declarations : List Declaration) : Sheet where
  text := sheet.text ++ d.spellDeclarations declarations
  declared := sheet.declared + declarations.length

/-- Adds text that declares nothing. -/
def addText (sheet : Sheet) (text : String) : Sheet :=
  { sheet with text := sheet.text ++ text }

/-- Writes a whole document. -/
def writeDocument (d : Dialect) (sheet : Sheet) (doc : Document) : Sheet × Traced Defect Unit :=
  let pass := doc.pass
  let written := (sheet.addText (d.header doc.name)).addDeclarations d pass.declarations
  match pass.ending with
  | .error defect => (written, ⟨pass.events, .error defect⟩)
  | .ok () =>
    (written.addText d.footer, ⟨pass.events ++ [.finished doc.name written.declared], .ok ()⟩)

/-- Writes a single declaration and tells what it lifts out. -/
def writeDeclaration (d : Dialect) (sheet : Sheet) (s : Schema) : Sheet × Traced Defect (List Schema) :=
  match s.declare.result with
  | .error defect => (sheet, ⟨s.declare.events, .error defect⟩)
  | .ok (declaration, hoisted) =>
    (sheet.addDeclarations d [declaration], ⟨s.declare.events, .ok hoisted⟩)

end Sheet

/-- The text of a document, or nothing of it if a declaration fails. -/
def Document.generate (d : Dialect) (doc : Document) : Traced Defect String :=
  let (sheet, outcome) := Sheet.writeDocument d {} doc
  do outcome; pure sheet.text

/-- The text for the document that a JSON text holds. -/
def generate (d : Dialect) (text : Bytes) : Traced Defect String :=
  match Document.decode text with
  | .error failure => Traced.fail (.ofFailure text failure)
  | .ok doc => doc.generate d

end SchemaTypes
