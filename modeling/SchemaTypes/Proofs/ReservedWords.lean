import SchemaTypes.Proofs.IdentifierForm
import SchemaTypes.Proofs.Pass.Warnings
import SchemaTypes.Proofs.SingleDeclaration
import SchemaTypes.Proofs.WireNames

/-!
# No field is a reserved word in Rust

The keywords that identifiers are set apart from are not all words that Rust reserves. Those left out begin with a
small letter of ASCII. No identifier of a field does: the key is exported, and no character has an upper-case form
that begins with such a letter; repairing it puts an underscore or a capital letter there, or leaves it as it is.
-/

namespace SchemaTypes
set_option autoImplicit false

open Text Dialect
open scoped List

/-! ## Upper-case forms -/

theorem toNat_of_isLower {c : Char} (lower : c.isLower = true) : 0x61 ≤ c.toNat ∧ c.toNat ≤ 0x7a := by
  obtain ⟨low, high⟩ := Bool.and_eq_true_iff.1 lower
  exact ⟨UInt32.le_iff_toNat_le.1 (of_decide_eq_true low), UInt32.le_iff_toNat_le.1 (of_decide_eq_true high)⟩

/-- A character that is made from a code point outside of the small letters is none of them. -/
theorem isLower_ofNat {n : Nat} (outside : n < 0x61 ∨ 0x7a < n) : (Char.ofNat n).isLower = false := by
  have value : (Char.ofNat n).toNat = n ∨ (Char.ofNat n).toNat = 0 := by
    by_cases valid : n.isValidChar
    · exact .inl (congrArg Char.toNat (dif_pos valid))
    · exact .inr (congrArg Char.toNat (dif_neg valid))
  refine Bool.eq_false_iff.2 fun lower => ?_
  have bounds := toNat_of_isLower lower
  omega

/-- No run of letters moves one to a small letter of ASCII. -/
theorem outside_of_target? {run : CaseRun} {n upper : Nat} (listed : run ∈ caseRuns)
    (moved : run.target? n = some upper) : upper < 0x61 ∨ 0x7a < upper := by
  have runs : ∀ run ∈ caseRuns, run.last + run.shift < 0x61 ∨ 0x7a < run.first + run.shift := by decide +kernel
  have apart := runs run listed
  unfold CaseRun.target? at moved
  split at moved
  · next inside =>
    simp only [Bool.and_eq_true, decide_eq_true_eq] at inside
    cases moved
    omega
  · cases moved

/-- Every small letter of ASCII is moved. -/
theorem isLower_of_findSome?_eq_none {c : Char} (kept : caseRuns.findSome? (·.target? c.toNat) = none) :
    c.isLower = false := by
  have first : ⟨0x61, 0x7a, 1, -32⟩ ∈ caseRuns := List.mem_cons_self
  have none_ := List.findSome?_eq_none_iff.1 kept _ first
  refine Bool.eq_false_iff.2 fun lower => ?_
  obtain ⟨low, high⟩ := toNat_of_isLower lower
  simp [CaseRun.target?, low, high, Nat.mod_one] at none_

/-- **An upper-case form begins with a character, which is no small letter of ASCII.** -/
theorem uppercase_eq_cons (c : Char) : ∃ first more, uppercase c = first :: more ∧ first.isLower = false := by
  have expansions : ∀ case ∈ expandingCases, case.2.head?.any (fun n => n < 0x61 || 0x7a < n) = true := by
    decide +kernel
  unfold uppercase
  split
  · next expansion expanded =>
    obtain ⟨before, behind, split, -⟩ := List.lookup_eq_some_iff.1 expanded
    have head := expansions (c.toNat, expansion) (split ▸ List.mem_append_right _ List.mem_cons_self)
    cases expansion with
    | nil => cases head
    | cons n more =>
      refine ⟨_, _, rfl, isLower_ofNat ?_⟩
      simpa using head
  · split
    · next upper moved =>
      obtain ⟨run, listed, target⟩ := List.exists_of_findSome?_eq_some moved
      exact ⟨_, _, rfl, isLower_ofNat (outside_of_target? listed target)⟩
    · next kept => exact ⟨_, _, rfl, isLower_of_findSome?_eq_none kept⟩

/-! ## Identifiers of keys -/

/-- No identifier of a field begins with a small letter of ASCII. -/
theorem fieldIdentifier_exported_eq_cons (key : String) :
    ∃ first more, (fieldIdentifier (exported key)).toList = first :: more ∧ first.isLower = false := by
  rw [toList_fieldIdentifier]
  cases chars : key.toList with
  | nil =>
    have empty : exported key = "" := by rw [exported, chars]
    rw [empty]
    exact ⟨'X', [], rfl, by decide⟩
  | cons c rest =>
    obtain ⟨first, more, upper, capital⟩ := uppercase_eq_cons c
    have characters : (exported key).toList = first :: (more ++ rest) := by
      rw [exported, chars]
      simp only [String.toList_ofList, upper, List.cons_append]
    rw [characters, List.map_cons]
    split
    · exact ⟨_, _, rfl, by decide⟩
    · refine ⟨_, _, rfl, ?_⟩
      rw [identifierChar]
      split
      · exact capital
      · decide

namespace Dialect

/-- Words that Rust reserves beside the keywords that identifiers are set apart from. -/
def reservedWords : List String := [
  "abstract", "become", "box", "do", "final", "macro", "override", "priv", "try", "typeof", "unsized",
  "virtual", "yield"]

/-- An identifier is that of any dialect, or this one with an underscore. -/
theorem rustIdentifier_eq (name : String) :
    rustIdentifier name = fieldIdentifier name ∨ rustIdentifier name = fieldIdentifier name ++ "_" := by
  simp only [rustIdentifier]
  split
  · exact .inr rfl
  · exact .inl rfl

theorem rustIdentifier_notMem_rustKeywords (name : String) : rustIdentifier name ∉ rustKeywords := by
  simp only [rustIdentifier]
  split
  · next keyword => exact not_mem_rustKeywords_append _ keyword
  · next free => exact free

/-- An underscore behind an identifier keeps its first character. -/
theorem rustIdentifier_exported_eq_cons (key : String) :
    ∃ first more, (rustIdentifier (exported key)).toList = first :: more ∧ first.isLower = false := by
  obtain ⟨first, more, chars, capital⟩ := fieldIdentifier_exported_eq_cons key
  rcases rustIdentifier_eq (exported key) with same | apart
  · exact ⟨first, more, same ▸ chars, capital⟩
  · exact ⟨first, more ++ ['_'], by rw [apart, String.toList_append, chars]; rfl, capital⟩

theorem rustIdentifier_exported_notMem_reservedWords (key : String) :
    rustIdentifier (exported key) ∉ reservedWords := by
  have small : ∀ word ∈ reservedWords, word.toList.head?.any Char.isLower = true := by decide +kernel
  intro reserved
  obtain ⟨first, more, chars, capital⟩ := rustIdentifier_exported_eq_cons key
  have lower := small _ reserved
  rw [chars, List.head?_cons, Option.any_some, capital] at lower
  cases lower

theorem rustIdentifier_form (name : String) :
    (∀ c ∈ (rustIdentifier name).toList, isAlphanumeric c = true ∨ c = '_') ∧
      ∃ c ∈ (rustIdentifier name).toList, c ≠ '_' := by
  have form := identifierForm_fieldIdentifier name
  rcases rustIdentifier_eq name with same | apart
  · rw [same]
    exact ⟨form.chars, form.spoken⟩
  · obtain ⟨c, mem, other⟩ := form.spoken
    rw [apart, String.toList_append]
    refine ⟨List.forall_mem_append.2 ⟨form.chars, ?_⟩, c, List.mem_append_left _ mem, other⟩
    exact List.forall_mem_singleton.2 (.inr rfl)

theorem rustIdentifier_ne_underscore (name : String) : rustIdentifier name ≠ "_" := by
  intro underscore
  obtain ⟨c, mem, other⟩ := (rustIdentifier_form name).2
  rw [underscore] at mem
  exact other (List.mem_singleton.1 mem)

end Dialect

/-! ## Declarations -/

/-- In the text of a field, its attribute is followed by a line with `identifier` between `pub` and a colon. The
identifier ends there, since it has alphanumeric characters and underscores only. -/
def DeclaredAs (field : Field) (identifier : String) : Prop :=
  (∀ c ∈ identifier.toList, isAlphanumeric c = true ∨ c = '_') ∧
    ∃ type : String,
      (rust.spellField field).toList =
        renameOpening ++ (quoted field.key).toList ++ renameClosing ++
          '\n' :: ("pub " ++ identifier ++ ": Option<" ++ type ++ ">,\n").toList

/-- **No field is a reserved word in Rust.** A declaration that is written has a field for every property. The
identifier on its line is none of the keywords, none of the other words that are reserved, and no underscore alone. -/
theorem no_field_is_reserved (sheet : Sheet) (s : Schema) {hoisted : List Schema}
    (written : (sheet.writeDeclaration .rust s).2.result = .ok hoisted) :
    ∃ fields : List Field,
      (sheet.writeDeclaration .rust s).1.text =
          sheet.text ++ (rust.opening s.id ++ String.join (fields.map rust.spellField) ++ rust.closing) ∧
        fields.map Field.key ~ (s.properties.getD []).map Prod.fst ∧
        ∀ field ∈ fields, ∃ identifier, DeclaredAs field identifier ∧
          identifier ∉ rustKeywords ∧ identifier ∉ reservedWords ∧ identifier ≠ "_" := by
  cases declared : s.declare.result with
  | error defect =>
    rw [(sheet.writeDeclaration_of_error .rust declared).2] at written
    cases written
  | ok outcome =>
    obtain ⟨declaration, lifted⟩ := outcome
    obtain ⟨-, resolves, rfl, -⟩ := Schema.result_declare.1 declared
    refine ⟨s.site.declaration.fields, ?_, ?_, fun field mem => ?_⟩
    · rw [(sheet.writeDeclaration_of_ok .rust declared).1, sheet.addDeclarations_singleton]
      rfl
    · rw [Site.Resolves.keys resolves]
      exact (sortedByKey_perm_self _).map Prod.fst
    · have named : field.name = exported field.key := Site.name_of_mem_fields mem
      have line : DeclaredAs field (rustIdentifier field.name) :=
        ⟨(rustIdentifier_form _).1, rust.spellFieldType field.type, toList_spellField_rust field⟩
      refine ⟨rustIdentifier field.name, line, rustIdentifier_notMem_rustKeywords _, ?_,
        rustIdentifier_ne_underscore _⟩
      rw [named]
      exact rustIdentifier_exported_notMem_reservedWords _

/-- An expression with a reserved word for a key, and with one whose exported form is a keyword. -/
def expression : Schema :=
  .struct "Expression" [("abstract", { kind := "string" }), ("\u017felf", { kind := "string" })]

theorem expression_has_no_reserved_field :
    (Sheet.writeDeclaration .rust {} expression).2.result = .ok [] ∧
      ∃ fields : List Field,
        (Sheet.writeDeclaration .rust {} expression).1.text =
            "" ++ (rust.opening "Expression" ++ String.join (fields.map rust.spellField) ++ rust.closing) ∧
          fields.map Field.key ~ ["abstract", "\u017felf"] ∧
          ∀ field ∈ fields, ∃ identifier, DeclaredAs field identifier ∧
            identifier ∉ rustKeywords ∧ identifier ∉ reservedWords ∧ identifier ≠ "_" := by
  have ascending : "abstract" ≤ "\u017felf" := by decide +kernel
  have declared := Schema.declare_strings (s := expression) ["abstract", "\u017felf"] rfl
    ((sortedByKey_pair _ _).trans (if_pos ascending))
  have written := (Sheet.writeDeclaration_of_ok .rust {} declared).2
  exact ⟨written, no_field_is_reserved {} expression written⟩

-- The long s becomes a capital letter, so the keyword is set apart.
example : rustIdentifier (exported "\u017felf") = "Self_" := by decide +kernel

end SchemaTypes
