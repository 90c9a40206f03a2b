/-
# Examining — when a document can be examined, and what is found then

A document is examined in two passes.  The schema is held against it, and says something about every
document that does not describe a form.  Then the entries of its fields are walked through once more
for names that come again, whether the schema has accepted them or not, and this walk takes them as
they come:

    fields that                      the walk
    do not count                     has nothing to do
    count and have no members        fails
    have a member whose name may     fails
      not be a key
    are anything else                comes by the names, `null` where there is none

So a document that does not describe a form may keep the examination from saying so.  Beside that,
only the wording of a finding can fail, when it has to show an integer of too many digits.
`ofDocument_examines` puts both together.
-/
import FormRules.Proofs.Definition.Repetition
import FormRules.Proofs.Definition.Shape
import FormRules.Proofs.Schema.Writing

namespace FormRules

/-- The fields of a document can be walked through for their names. -/
def Value.HasNames (document : Value) : Prop :=
  (document.member "fields").truthy = true → ∃ entries,
    (document.member "fields").members? = some entries ∧
      ∀ entry ∈ entries, (entry.member "name").isKey = true

namespace Issue

/-! ## The walk -/

theorem repeatedFrom_cons (seen repeated : List Value) (entry : Value) (rest : List Value) :
    repeatedFrom seen repeated (entry :: rest) =
      if (entry.member "name").isKey then
        repeatedFrom (entry.member "name" :: seen)
          (if seen.any (·.same (entry.member "name")) && !repeated.any (·.same (entry.member "name"))
            then repeated ++ [entry.member "name"] else repeated) rest
      else .error .typeMismatch := by
  have either {α : Type} (c : Bool) (x y : α) : (if !c then x else y) = if c then y else x := by
    cases c <;> rfl
  cases opened : entry.opened with
  | map members =>
      rw [repeatedFrom, opened, Value.member_of_opened opened]
      exact either _ _ _
  | _ =>
      have nameless : entry.member "name" = .null := by rw [Value.member, Value.part?, opened]; rfl
      rw [repeatedFrom, opened, nameless]
      rfl

/-- The walk comes to an end exactly if every name may be a key, whatever has come before. -/
theorem repeatedFrom_cases (seen repeated : List Value) (entries : List Value) :
    (∃ names, repeatedFrom seen repeated entries = .ok names) ∧
        (∀ entry ∈ entries, (entry.member "name").isKey = true) ∨
      repeatedFrom seen repeated entries = .error .typeMismatch ∧
        ¬ ∀ entry ∈ entries, (entry.member "name").isKey = true := by
  induction entries generalizing seen repeated with
  | nil => exact .inl ⟨⟨repeated, rfl⟩, by simp⟩
  | cons entry rest ih =>
      rw [repeatedFrom_cons, List.forall_mem_cons]
      split
      · rename_i key
        simpa only [key, true_and] using ih _ _
      · rename_i noKey
        exact .inr ⟨rfl, fun all => noKey all.1⟩

/-- Looking for names that come again comes to an end exactly if the fields have names. -/
theorem repeatedNames_cases {document : Value} {members : List (Value × Value)}
    (opened : document.opened = .map members) :
    (∃ names, repeatedNames members = .ok names) ∧ document.HasNames ∨
      repeatedNames members = .error .typeMismatch ∧ ¬ document.HasNames := by
  have fields : (Table.find? members (.str "fields")).getD .null = document.member "fields" :=
    (Value.member_of_opened opened "fields").symm
  rw [repeatedNames, fields]
  unfold Value.HasNames
  cases (document.member "fields").truthy with
  | false => exact .inl ⟨⟨[], rfl⟩, fun counts => absurd counts Bool.false_ne_true⟩
  | true =>
      cases listed : (document.member "fields").members? with
      | none =>
          right
          rw [Value.members, listed]
          exact ⟨rfl, by simp⟩
      | some entries =>
          have walked : (document.member "fields").members = .ok entries := by
            rw [Value.members, listed]
          simpa [walked, ok_bind] using repeatedFrom_cases [] [] entries

/-! ## The two passes -/

variable {document : Value}

/-- What cannot be written holds an integer of too many digits. -/
theorem writable_cases (document : Value) :
    writable document = .ok () ∧ FormDefinition.schema.isWritable document = true ∨
      writable document = .error .longInteger ∧
        FormDefinition.schema.isWritable document = false ∧ document.holdsLongInteger = true := by
  rw [writable]
  cases can : FormDefinition.schema.isWritable document with
  | true => exact .inl ⟨rfl, rfl⟩
  | false =>
      refine .inr ⟨rfl, rfl, Bool.not_eq_false _ ▸ fun short => ?_⟩
      rw [Schema.isWritable_of_isShort _ short] at can
      cases can

/-- A mapping about which everything can be written is walked through once more. -/
theorem ofDocument_of_opened {members : List (Value × Value)} (written : writable document = .ok ())
    (opened : document.opened = .map members) :
    ofDocument document =
      (fun names => ofSchema document ++ names.map sharedName) <$> repeatedNames members := by
  rw [ofDocument, written, ok_bind, opened]
  rfl

/-- A document about which everything can be written is examined unless the walk fails. -/
theorem ofDocument_cases (written : writable document = .ok ()) :
    (∃ issues, ofDocument document = .ok issues) ∧ document.HasNames ∨
      ofDocument document = .error .typeMismatch ∧ ¬ document.HasNames := by
  cases opened : document.opened with
  | map members =>
      rw [ofDocument_of_opened written opened]
      rcases repeatedNames_cases opened with ⟨⟨names, walked⟩, named⟩ | ⟨failed, nameless⟩
      · rw [walked]
        exact .inl ⟨⟨_, rfl⟩, named⟩
      · rw [failed]
        exact .inr ⟨rfl, nameless⟩
  | _ =>
      -- What is no mapping has no fields.
      rw [ofDocument, written, ok_bind, opened]
      refine .inl ⟨⟨_, rfl⟩, fun counts => ?_⟩
      rw [Value.member, Value.part?, opened] at counts
      cases counts

/-- Issues that are errors come from the schema. -/
theorem exists_error_iff {issues : List Issue} (h : ofDocument document = .ok issues) :
    (∃ i ∈ issues, i.severity = .error) ↔ ¬ document.DescribesForm := by
  rw [← FormDefinition.schema_accepts_iff]
  constructor
  · rintro ⟨i, hi, isError⟩ accepted
    rw [FormDefinition.issues_of_accepts accepted, map_eq_ok_iff] at h
    obtain ⟨_, -, rfl⟩ := h
    obtain ⟨name, -, rfl⟩ := List.mem_map.mp hi
    cases isError
  · intro rejected
    by_contra none
    exact rejected (FormDefinition.accepts_of_ofDocument h fun i hi isError => none ⟨i, hi, isError⟩)

/-- A document that describes a form has fields with names. -/
theorem hasNames_of_describesForm (h : document.DescribesForm) : document.HasNames := by
  intro _
  obtain ⟨fields, entries, part, opened, described⟩ := h.fields
  have member : document.member "fields" = fields := by rw [Value.member, part]; rfl
  rw [member]
  refine ⟨entries, by rw [Value.members?, opened], fun entry hentry => ?_⟩
  obtain ⟨name, named, s, rfl, -⟩ := (described entry hentry).name
  rw [Value.member, named]
  rfl

/-- **What examining a document comes to.**  There are issues if the findings of the schema can be
written and the fields have names, and then one of them is an error exactly if the document does
not describe a form.  Otherwise there are none: examining fails at an integer of too many digits,
or at the fields of a document that does not describe a form. -/
theorem ofDocument_examines (document : Value) :
    match ofDocument document with
    | .ok issues =>
        FormDefinition.schema.isWritable document = true ∧ document.HasNames ∧
          ((∃ i ∈ issues, i.severity = .error) ↔ ¬ document.DescribesForm)
    | .error f =>
        f = .longInteger ∧ FormDefinition.schema.isWritable document = false ∧
            document.holdsLongInteger = true ∨
          f = .typeMismatch ∧ FormDefinition.schema.isWritable document = true ∧
            ¬ document.HasNames ∧ ¬ document.DescribesForm := by
  rcases writable_cases document with ⟨written, can⟩ | ⟨failed, cannot, long⟩
  · rcases ofDocument_cases written with ⟨⟨issues, examined⟩, named⟩ | ⟨failed, nameless⟩
    · rw [examined]
      exact ⟨can, named, exists_error_iff examined⟩
    · rw [failed]
      exact .inr ⟨rfl, can, nameless, mt hasNames_of_describesForm nameless⟩
  · rw [ofDocument, failed, error_bind]
    exact .inl ⟨rfl, cannot, long⟩

/-- A form whose fields are a flag. -/
def flaggedFields : Value := .map [(.str "form", .str "signup"), (.str "fields", .bool true)]

/-- The schema finds an error, but examining fails before it is reported. -/
theorem ofDocument_flaggedFields :
    ofSchema flaggedFields = [⟨"fields", "True is not of type 'array'", .error⟩] ∧
      ofDocument flaggedFields = .error .typeMismatch ∧
      FormDefinition.schema.isWritable flaggedFields = true ∧ ¬ flaggedFields.DescribesForm := by
  have found : (FormDefinition.schema.findings flaggedFields).map ofFinding =
      [⟨"fields", "True is not of type 'array'", .error⟩] := by rfl
  have failed : ofDocument flaggedFields = .error .typeMismatch := by rfl
  have examined := ofDocument_examines flaggedFields
  rw [failed] at examined
  rcases examined with ⟨unlike, -⟩ | ⟨-, written, -, rejected⟩
  · cases unlike
  · refine ⟨?_, failed, written, rejected⟩
    rw [ofSchema, found, List.mergeSort_singleton]

end Issue

end FormRules
