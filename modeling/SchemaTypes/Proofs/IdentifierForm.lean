import SchemaTypes.Proofs.FieldNames
import SchemaTypes.Text.DecimalDigit

/-!
# The form of field identifiers

An identifier has letters, digits and underscores, but not underscores alone, and no digit in front. Repairing a name
gives this form as far as the digits of ASCII go, and leaves a name of this form as it is. Digits of other scripts
are alphanumeric, so they are kept, but none of them gets a letter in front: a name that begins with one is the only
kind of name whose identifier begins with a digit.
-/

namespace SchemaTypes
set_option autoImplicit false

open Text

/-- The form of an identifier, where the characters of `digit` may not stand in front. -/
structure IdentifierForm (digit : Char → Bool) (name : String) : Prop where
  nonempty : name ≠ ""
  chars : ∀ c ∈ name.toList, isAlphanumeric c = true ∨ c = '_'
  spoken : ∃ c ∈ name.toList, c ≠ '_'
  front : ∀ c, name.toList.head? = some c → digit c = false

/-- The name begins with a decimal digit that is none of ASCII. -/
def BeginsWithForeignDigit (name : String) : Prop :=
  ∃ c, name.toList.head? = some c ∧ isDecimalDigit c = true ∧ c.isDigit = false

/-! ## Characters -/

theorem identifierChar_of_form {c : Char} (form : isAlphanumeric c = true ∨ c = '_') : identifierChar c = c := by
  have kept : (isAlphanumeric c || c == '_') = true := by simpa using form
  rw [identifierChar, if_pos kept]

theorem identifierChar_form (c : Char) :
    isAlphanumeric (identifierChar c) = true ∨ identifierChar c = '_' := by
  rw [identifierChar]
  split
  · next kept => simpa using kept
  · exact .inr rfl

/-- No lead is needed where some character is no underscore and no ASCII digit comes first. -/
theorem needsLead_eq_false_iff {chars : List Char} :
    needsLead chars = false ↔
      (∃ c ∈ chars, c ≠ '_') ∧ ∀ c, chars.head? = some c → c.isDigit = false := by
  have all : chars.all (· == '_') = false ↔ ∃ c ∈ chars, c ≠ '_' := by simp
  have first : chars.head?.any Char.isDigit = false ↔ ∀ c, chars.head? = some c → c.isDigit = false := by
    cases chars <;> simp
  rw [needsLead, Bool.or_eq_false_iff, all, first]

/-! ## Identifiers -/

/-- The characters of an identifier are those of the name, repaired, behind an `X` where these need it. -/
theorem toList_fieldIdentifier (name : String) :
    (fieldIdentifier name).toList =
      if needsLead (name.toList.map identifierChar) then 'X' :: name.toList.map identifierChar
      else name.toList.map identifierChar := by
  rw [fieldIdentifier, String.toList_ofList]

/-- An identifier needs no lead any more. -/
theorem needsLead_fieldIdentifier (name : String) : needsLead (fieldIdentifier name).toList = false := by
  rw [toList_fieldIdentifier]
  split
  · exact needsLead_lead _
  · next noLead => exact Bool.eq_false_iff.2 noLead

theorem mem_fieldIdentifier {name : String} {c : Char} (mem : c ∈ (fieldIdentifier name).toList) :
    c = 'X' ∨ ∃ d ∈ name.toList, c = identifierChar d := by
  have repaired : c ∈ name.toList.map identifierChar → ∃ d ∈ name.toList, c = identifierChar d := by
    intro mem
    obtain ⟨d, named, rfl⟩ := List.mem_map.1 mem
    exact ⟨d, named, rfl⟩
  rw [toList_fieldIdentifier] at mem
  split at mem
  · exact (List.mem_cons.1 mem).imp_right repaired
  · exact .inr (repaired mem)

/-- **Repaired names have the form of an identifier**, as far as the digits of ASCII go. -/
theorem identifierForm_fieldIdentifier (name : String) : IdentifierForm Char.isDigit (fieldIdentifier name) := by
  obtain ⟨spoken, front⟩ := needsLead_eq_false_iff.1 (needsLead_fieldIdentifier name)
  refine ⟨?_, ?_, spoken, front⟩
  · intro empty
    obtain ⟨c, mem, -⟩ := spoken
    rw [empty] at mem
    cases mem
  · intro c mem
    rcases mem_fieldIdentifier mem with rfl | ⟨d, -, rfl⟩
    · exact .inl (by decide +kernel)
    · exact identifierChar_form d

/-- **Names of this form are left as they are**, and no others. -/
theorem fieldIdentifier_eq_self_iff {name : String} :
    fieldIdentifier name = name ↔ IdentifierForm Char.isDigit name := by
  constructor
  · intro same
    exact same ▸ identifierForm_fieldIdentifier name
  · intro form
    have kept : name.toList.map identifierChar = name.toList := by
      refine (List.map_congr_left fun c mem => ?_).trans (List.map_id _)
      exact identifierChar_of_form (form.chars c mem)
    have noLead : needsLead name.toList = false := needsLead_eq_false_iff.2 ⟨form.spoken, form.front⟩
    rw [← String.toList_inj, toList_fieldIdentifier, kept, noLead]
    rfl

/-- A digit in front that is none of ASCII is kept there, since it is alphanumeric and asks for no lead. -/
theorem head?_of_beginsWithForeignDigit {name : String} {c : Char} (first : name.toList.head? = some c)
    (digit : isDecimalDigit c = true) (foreign : c.isDigit = false) :
    (fieldIdentifier name).toList.head? = some c := by
  have alphanumeric := isAlphanumeric_of_isDecimalDigit digit
  have other : c ≠ '_' := by
    rintro rfl
    exact absurd digit (by decide)
  have front : (name.toList.map identifierChar).head? = some c := by
    rw [List.head?_map, first, Option.map_some, identifierChar_of_form (.inl alphanumeric)]
  have noLead : needsLead (name.toList.map identifierChar) = false := by
    refine needsLead_eq_false_iff.2 ⟨⟨c, List.mem_of_mem_head? front, other⟩, fun d head => ?_⟩
    obtain rfl := Option.some.inj (front.symm.trans head)
    exact foreign
  rw [toList_fieldIdentifier, noLead]
  exact front

/-- **Which identifiers begin with a digit**: those of names that begin with a digit that is none of ASCII. -/
theorem exists_digit_in_front_iff (name : String) :
    (∃ c, (fieldIdentifier name).toList.head? = some c ∧ isDecimalDigit c = true) ↔
      BeginsWithForeignDigit name := by
  constructor
  · rintro ⟨c, head, digit⟩
    have foreign := (identifierForm_fieldIdentifier name).front c head
    rw [toList_fieldIdentifier] at head
    split at head
    · -- The lead is a letter.
      obtain rfl := Option.some.inj head
      exact absurd digit (by decide)
    · rw [List.head?_map, Option.map_eq_some_iff] at head
      obtain ⟨d, first, rfl⟩ := head
      have kept : identifierChar d = d := by
        rw [identifierChar] at digit ⊢
        split at digit
        · next form => rw [if_pos form]
        · exact absurd digit (by decide)
      rw [kept] at digit foreign
      exact ⟨d, first, digit, foreign⟩
  · rintro ⟨c, first, digit, foreign⟩
    exact ⟨c, head?_of_beginsWithForeignDigit first digit foreign, digit⟩

/-- A form that bars all decimal digits from the front bars those of ASCII. -/
theorem IdentifierForm.ascii {name : String} (form : IdentifierForm isDecimalDigit name) :
    IdentifierForm Char.isDigit name := by
  refine { form with front := fun c head => ?_ }
  have other := form.front c head
  refine Bool.eq_false_iff.2 fun digit => ?_
  rw [isDecimalDigit_of_isDigit digit] at other
  cases other

/-- **The form of field identifiers.** An identifier is not empty, has alphanumeric characters and underscores only,
not underscores alone, and no ASCII digit in front. No decimal digit of any script is in front just where the name
does not begin with one that is foreign to ASCII. The names that are left as they are, are those that have the form
of an identifier with ASCII digits, so that all names are among them that have it with the digits of every script. -/
theorem form_of_field_identifiers (name : String) :
    IdentifierForm Char.isDigit (fieldIdentifier name) ∧
      (IdentifierForm isDecimalDigit (fieldIdentifier name) ↔ ¬BeginsWithForeignDigit name) ∧
      (fieldIdentifier name = name ↔ IdentifierForm Char.isDigit name) ∧
      (IdentifierForm isDecimalDigit name → fieldIdentifier name = name) := by
  have form := identifierForm_fieldIdentifier name
  refine ⟨form, ?_, fieldIdentifier_eq_self_iff, fun strict => fieldIdentifier_eq_self_iff.2 strict.ascii⟩
  rw [← exists_digit_in_front_iff]
  constructor
  · rintro strict ⟨c, head, digit⟩
    rw [strict.front c head] at digit
    cases digit
  · intro noDigit
    exact { form with front := fun c head => Bool.eq_false_iff.2 fun digit => noDigit ⟨c, head, digit⟩ }

/-- **An identifier may begin with a digit**: the Arabic three in front of a name stays there, in either dialect. -/
theorem arabic_digit_in_front :
    fieldIdentifier "\u0663d" = "\u0663d" ∧ ¬IdentifierForm isDecimalDigit (fieldIdentifier "\u0663d") ∧
      ∀ d ∈ [Dialect.go, Dialect.rust], d.identifier (exported "\u0663d") = "\u0663d" := by
  have kept : fieldIdentifier "\u0663d" = "\u0663d" := by decide +kernel
  have digit : isDecimalDigit '\u0663' = true := by decide
  refine ⟨kept, ?_, by decide +kernel⟩
  rw [kept]
  intro form
  have other := form.front '\u0663' (by decide)
  rw [digit] at other
  cases other

end SchemaTypes
