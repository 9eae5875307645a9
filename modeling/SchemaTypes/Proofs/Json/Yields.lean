import SchemaTypes.Json.Typed
import SchemaTypes.Proofs.Entries

/-!
# What readers yield

A property of all values that a reader can read, whatever the text. It passes through the combinators, and
through the loop over the entries of an object as an invariant of what has been collected.
-/

namespace SchemaTypes.Json
set_option autoImplicit false

open Reader

variable {α β σ : Type}

/-- Every value that the reader reads has the property `P`. -/
def Reader.Yields (reader : Reader α) (P : α → Prop) : Prop :=
  ∀ (s : Bytes) (value : α) (rest : Rest s), reader s = .ok (value, rest) → P value

namespace Reader.Yields

variable {P : α → Prop} {Q : β → Prop} {Inv : σ → Prop}

theorem imp {reader : Reader α} {P' : α → Prop} (yields : reader.Yields P)
    (weaker : ∀ {value}, P value → P' value) : reader.Yields P' :=
  fun s value rest read => weaker (yields s value rest read)

theorem pure {value : α} (holds : P value) : (Pure.pure value : Reader α).Yields P := by
  intro s _ _ read
  cases read
  exact holds

theorem failHere (cause : Cause) : (Reader.failHere cause : Reader α).Yields P :=
  nofun

theorem failAtNext (cause : Cause) : (Reader.failAtNext cause : Reader α).Yields P :=
  nofun

theorem bind {reader : Reader α} {next : α → Reader β} (first : reader.Yields P)
    (then_ : ∀ value, P value → (next value).Yields Q) : (reader >>= next).Yields Q := by
  intro s result rest read
  simp only [Bind.bind, Reader.bind] at read
  split at read
  · cases read
  · next value rest' first' =>
    split at read
    · cases read
    · next second =>
      cases read
      exact then_ value (first s value rest' first') _ _ _ second

theorem ite {p : Prop} [Decidable p] {yes no : Reader α} (first : yes.Yields P) (second : no.Yields P) :
    (if p then yes else no).Yields P := by
  split
  · exact first
  · exact second

/-- What the first reader reads may be anything. -/
theorem after {reader : Reader α} {next : α → Reader β} (then_ : ∀ value, (next value).Yields Q) :
    (reader >>= next).Yields Q :=
  bind (P := fun _ => True) (fun _ _ _ _ => trivial) fun value _ => then_ value

theorem within {reader : Reader α} (step : Step) (yields : reader.Yields P) :
    (Reader.within step reader).Yields P := by
  intro s value rest read
  unfold Reader.within at read
  split at read
  · cases read
  · next result done =>
    cases read
    exact yields s value rest done

theorem wrongKind (first : UInt8) (expected : Expected) : (Json.wrongKind first expected : Reader α).Yields P := by
  exact ite (failHere _) (ite (failHere _) (after fun _ => after fun found => failHere _))

theorem optional {reader : Reader α} {P : Option α → Prop} (none_ : P none)
    (some_ : reader.Yields fun value => P (some value)) : (Json.optional reader).Yields P := by
  refine after fun first => ite ?_ ?_
  · exact after fun _ => after fun _ => pure none_
  · exact bind some_ fun _ holds => pure holds

section entries

variable {accept : σ → String → Reader Unit} {value : σ → String → Reader σ}
  (kept : ∀ state key, Inv state → (value state key).Yields Inv)

include kept

theorem entry {state : σ} (start : Inv state) : (Json.entry accept value state).Yields Inv := by
  refine after fun key => after fun _ => after fun colon => ?_
  split
  · exact failAtNext _
  · exact ite (after fun _ => within _ (kept state key start)) (failAtNext _)

/-- What one entry keeps is true when all entries have been read. -/
theorem entries {n : Nat} {state result : σ} {s : Bytes} {bound : s.length ≤ n} {rest : UpTo n}
    (start : Inv state) (read : Json.entries accept value state s bound = .ok (result, rest)) : Inv result := by
  fun_induction Json.entries accept value state s bound with
  | case3 state s _ next r _ done =>
    cases read
    exact entry kept start _ _ _ done
  | case5 state s _ next r _ done =>
    rename_i ih
    exact ih (entry kept start _ _ _ done) read
  | _ => cases read

theorem openObject {state : σ} (start : Inv state) : (Json.openObject accept value state).Yields Inv := by
  refine after fun first => ?_
  split
  · exact within _ (failAtNext _)
  · refine ite (after fun _ => pure start) (ite ?_ (within _ (failAtNext _)))
    exact fun s result rest read => entries kept start read

end entries

/-- The entries of a map have distinct keys, and values that its reader yields. -/
theorem map {value : Reader α} (yields : value.Yields P) :
    (Json.map (some value)).Yields fun entries =>
      (entries.map (·.1)).Nodup ∧ ∀ entry ∈ entries, P entry.2 := by
  refine after fun first => ?_
  split
  · exact failAtNext _
  · refine ite (after fun _ => openObject ?_ ⟨.nil, by simp⟩) (wrongKind _ _)
    rintro sofar key ⟨distinct, holds⟩
    refine bind yields fun child good => pure ⟨nodup_assign distinct, ?_⟩
    intro entry mem
    rcases mem_assign mem with rfl | mem
    · exact good
    · exact holds entry mem

/-- A map whose values may not be reached is refused. -/
theorem map_none {P : List (String × α) → Prop} : (Json.map none).Yields P := by
  refine after fun first => ?_
  split
  · exact failAtNext _
  · exact ite (failAtNext _) (wrongKind _ _)

theorem readField {fields : List (FieldReader σ)}
    (kept : ∀ field ∈ fields, ∀ record, Inv record → (field.read record).Yields Inv) {sofar : Partial σ}
    (name : String) (start : Inv sofar.record) :
    (Json.readField fields sofar name).Yields fun filled => Inv filled.record := by
  unfold Json.readField
  split
  · exact after fun _ => pure start
  · next field found =>
    exact bind (kept field (List.mem_of_find?_eq_some found) _ start) fun record holds => pure holds

theorem elements {fields : List (FieldReader σ)}
    (kept : ∀ field ∈ fields, ∀ record, Inv record → (field.read record).Yields Inv) (position : Nat)
    {record : σ} (start : Inv record) : (Json.elements position fields record).Yields Inv := by
  induction fields generalizing position record with
  | nil => exact pure start
  | cons field more ih =>
    refine after fun another => ite ?_ (pure start)
    refine bind (within _ (kept field List.mem_cons_self record start)) fun next holds => ?_
    exact ih (fun field mem => kept field (List.mem_cons_of_mem _ mem)) _ holds

/-- What each field keeps is true of the record, whether it is read from an object or from a list. -/
theorem record {name : String} {fields : List (FieldReader σ)} {empty : σ}
    (kept : ∀ field ∈ fields, ∀ record, Inv record → (field.read record).Yields Inv) (start : Inv empty) :
    (Json.record name (some fields) empty).Yields Inv := by
  refine after fun first => ?_
  split
  · exact failAtNext _
  · refine ite ?_ (ite ?_ (wrongKind _ _))
    · refine after fun _ => bind (openObject ?_ start) fun filled holds => pure holds
      exact fun sofar name holds => readField kept name holds
    · exact after fun _ => bind (elements kept 0 start) fun filled holds => after fun _ => pure holds

/-- A record whose fields may not be reached is refused. -/
theorem record_none {name : String} {empty : σ} : (Json.record name none empty).Yields Inv := by
  refine after fun first => ?_
  split
  · exact failAtNext _
  · exact ite (failAtNext _) (ite (failAtNext _) (wrongKind _ _))

/-- A whole text holds what its reader yields. -/
theorem whole {reader : Reader α} {text : Bytes} {value : α} (yields : reader.Yields P)
    (read : Json.whole reader text = .ok value) : P value := by
  unfold Json.whole at read
  split at read
  · cases read
  · next done =>
    split at read
    · cases read
      exact yields _ _ _ done
    · cases read

end Reader.Yields

end SchemaTypes.Json
