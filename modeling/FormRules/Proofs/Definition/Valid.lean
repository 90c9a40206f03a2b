/-
# Valid definitions — what the schema promises to the loader

The loader checks little, because documents are meant to satisfy the form schema.  This module says
what follows from that.  The entries of a document, its model and its messages are read off its
members (`Value.member`), and for a document that the schema accepts

    its name and the names of its fields     are texts that are not empty
    the rules of a field                     are a text, or nothing
    messages                                 are one text, or texts by rule, or nothing
    the loader                               gives the definition that is in the document

`ofDocument_of_accepts` is the last line; it names the result without any step that may fail.
-/
import FormRules.Definition.File
import FormRules.Proofs.Outcome
import FormRules.Proofs.Rule.Message
import FormRules.Proofs.Schema.Findings

namespace FormRules

open Schema

namespace Value

/-- The member of a value under a name, or nothing. -/
def member (v : Value) (name : String) : Value := (v.part? (.member name)).getD .null

theorem opened_eq_str_iff {v : Value} {s : String} : v.opened = .str s ↔ v = .str s := by
  cases v with
  | ring nodes place =>
      simp only [opened]
      cases (nodes[place]?).getD .null <;> simp
  | _ => simp [opened]

theorem member_of_opened {v : Value} {entries : List (Value × Value)}
    (h : v.opened = .map entries) (name : String) :
    v.member name = (FormOptions.member? entries name).getD .null := by
  rw [member, part?, h]
  rfl

/-- The entries of a mapping are its table. -/
theorem toTable_of_opened {v : Value} {entries : List (Value × Value)}
    (h : v.opened = .map entries) : v.toTable = .ok entries := by
  unfold toTable
  cases full : v.truthy with
  | true => simp [h]
  | false =>
      cases v with
      | map es =>
          obtain rfl : es = entries := by simpa [opened] using h
          obtain rfl : es = [] := by simpa [truthy] using full
          rfl
      | ring nodes place => simp [truthy] at full
      | _ => simp [opened] at h

end Value

namespace Schema

theorem holds_string_iff {v : Value} : Kind.string.holds v = true ↔ ∃ s, v = .str s := by
  have held : Kind.string.holds v = true ↔ ∃ s, v.opened = .str s := by
    simp only [Kind.holds]
    cases v.opened <;> simp
  rw [held]
  exact exists_congr fun _ => Value.opened_eq_str_iff

theorem holds_object_iff {v : Value} :
    Kind.object.holds v = true ↔ ∃ entries, v.opened = .map entries := by
  simp only [Kind.holds]
  cases v.opened <;> simp

theorem holds_array_iff {v : Value} :
    Kind.array.holds v = true ↔ ∃ items, v.opened = .list items := by
  simp only [Kind.holds]
  cases v.opened <;> simp

end Schema

/-- A field as the schema promises it. -/
structure FieldDefinition.IsValid (f : FieldDefinition) : Prop where
  name : ∃ s, f.name = .str s ∧ s ≠ ""
  rules : f.rules = .null ∨ ∃ s, f.rules = .str s
  errorHelp : f.errorHelp.IsHelp

namespace FieldDefinition.IsValid

variable {f : FieldDefinition} (h : f.IsValid)

include h

theorem isKey_name : f.name.isKey = true := by
  obtain ⟨name, named, -⟩ := h.name
  rw [named]
  rfl

theorem truthy_name : f.name.truthy = true := by
  obtain ⟨name, named, full⟩ := h.name
  rw [named]
  exact truthy_str full

end FieldDefinition.IsValid

namespace FormDefinition

/-- The field that an entry of a document defines. -/
def fieldIn (entry : Value) : FieldDefinition :=
  ⟨entry.member "name", .ofValue (entry.member "kind"), entry.member "rules",
    entry.member "errorHelp", entry.member "validateOnEvent"⟩

/-- The fields that a document defines, in order. -/
def fieldsIn (document : Value) : List FieldDefinition :=
  match (document.member "fields").opened with
  | .list entries => entries.map fieldIn
  | _ => []

/-- The model in a document. -/
def modelIn (document : Value) : Table Value :=
  match (document.member "model").opened with
  | .map entries => entries
  | _ => []

/-- The definition in a document. -/
def inDocument (settings : Settings) (document : Value) : FormDefinition :=
  ⟨document.member "form", fieldsIn document, document.member "errorHelp",
    (document.part? (.member "validateOnEvent")).getD settings.validateOnEvent,
    modelIn document⟩

/-! ## Parts of a document that the schema accepts -/

theorem text_of_accepts {v : Value} (h : textSchema.Accepts v) : ∃ s, v = .str s ∧ s ≠ "" := by
  have all := accepts_keywords_iff.mp h
  obtain ⟨s, rfl⟩ := holds_string_iff.mp (accepts_type_iff.mp (all _ (.head _)))
  refine ⟨s, rfl, ?_⟩
  have long := accepts_leastLength_iff.mp (all _ (.tail _ (.head _)))
  rintro rfl
  exact absurd long (by decide)

theorem str_of_accepts {v : Value} (h : Accepts (.keywords [.type .string]) v) :
    ∃ s, v = .str s :=
  holds_string_iff.mp (accepts_type_iff.mp (accepts_keywords_iff.mp h _ (.head _)))

theorem isHelp_of_accepts {v : Value} (h : helpSchema.Accepts v) : v.IsHelp := by
  obtain ⟨s, hs, accepted⟩ := accepts_someOf_iff.mp (accepts_keywords_iff.mp h _ (.head _))
  rcases List.mem_cons.mp hs with rfl | hs
  · exact .inr (.inl (str_of_accepts accepted))
  · obtain rfl := List.mem_singleton.mp hs
    have all := accepts_keywords_iff.mp accepted
    obtain ⟨entries, opened⟩ := holds_object_iff.mp (accepts_type_iff.mp (all _ (.head _)))
    have texts := (accepts_others_iff opened).mp (all _ (.tail _ (.head _)))
    exact .inr (.inr ⟨entries, opened, fun e he => str_of_accepts (texts e he)⟩)

/-- A member that need not be there is nothing, or its schema accepts it. -/
theorem member_cases {v : Value} {schemas : List (String × Schema)}
    (h : KeywordAccepts (.members schemas) v) {name : String} {s : Schema}
    (hs : (name, s) ∈ schemas) : v.member name = .null ∨ s.Accepts (v.member name) := by
  cases part : v.part? (.member name) with
  | none => exact .inl (by rw [Value.member, part]; rfl)
  | some u =>
      right
      rw [Value.member, part]
      exact accepts_members_iff.mp h name s hs u part

theorem isHelp_of_member_cases {v : Value} (h : v = .null ∨ helpSchema.Accepts v) : v.IsHelp :=
  h.elim .inl isHelp_of_accepts

/-! ## Fields -/

theorem opened_of_accepts_field {entry : Value} (h : fieldSchema.Accepts entry) :
    ∃ members, entry.opened = .map members :=
  holds_object_iff.mp (accepts_type_iff.mp (accepts_keywords_iff.mp h _ (.head _)))

theorem isValid_fieldIn {entry : Value} (h : fieldSchema.Accepts entry) :
    (fieldIn entry).IsValid := by
  have all := accepts_keywords_iff.mp h
  obtain ⟨members, opened⟩ := opened_of_accepts_field h
  have parts := all _ (.tail _ (.tail _ (.tail _ (.head _))))
  have required := (accepts_required_iff opened).mp (all _ (.tail _ (.head _)))
  obtain ⟨name, named⟩ := required "name" (.head _)
  refine ⟨?_, ?_, ?_⟩
  · have accepted := accepts_members_iff.mp parts "name" textSchema (.head _) name named
    have same : (fieldIn entry).name = name := by
      show entry.member "name" = name
      rw [Value.member, named]
      rfl
    rw [same]
    exact text_of_accepts accepted
  · rcases member_cases parts (.tail _ (.tail _ (.head _))) with none | accepted
    · exact .inl none
    · exact .inr (holds_string_iff.mp
        (accepts_type_iff.mp (accepts_keywords_iff.mp accepted _ (.head _))))
  · exact isHelp_of_member_cases (member_cases parts (.tail _ (.tail _ (.tail _ (.head _)))))

theorem ofEntry_of_accepts (path : String) {entry : Value} (h : fieldSchema.Accepts entry) :
    FieldDefinition.ofEntry path entry = .ok (fieldIn entry) := by
  obtain ⟨members, opened⟩ := opened_of_accepts_field h
  have read (name : String) := Value.member_of_opened opened name
  have truthy : (entry.member "name").truthy = true := (isValid_fieldIn h).truthy_name
  simp only [FieldDefinition.ofEntry, opened, ← read, truthy]
  rfl

/-! ## Documents -/

theorem entriesOf_of_opened (path : String) {fields : Value} {entries : List Value}
    (h : fields.opened = .list entries) : entriesOf path fields = .ok entries := by
  unfold entriesOf
  cases full : fields.truthy with
  | true => simp [h]
  | false =>
      cases fields with
      | list items =>
          obtain rfl : items = entries := by simpa [Value.opened] using h
          obtain rfl : items = [] := by simpa [Value.truthy] using full
          rfl
      | ring nodes place => simp [Value.truthy] at full
      | _ => simp [Value.opened] at h

section Documents

variable {document : Value} (h : schema.Accepts document)

include h

theorem opened_of_accepts : ∃ members, document.opened = .map members :=
  holds_object_iff.mp (accepts_type_iff.mp (accepts_keywords_iff.mp h _ (.head _)))

theorem accepts_members : KeywordAccepts
    (.members
      [("form", textSchema), ("validateOnEvent", textSchema), ("errorHelp", helpSchema),
        ("model", .keywords [.type .object]),
        ("fields", .keywords [.type .array, .items fieldSchema])]) document :=
  accepts_keywords_iff.mp h _ (.tail _ (.tail _ (.tail _ (.head _))))

theorem exists_part {name : String} (hname : name ∈ ["form", "fields"]) :
    ∃ u, document.part? (.member name) = some u := by
  obtain ⟨members, opened⟩ := opened_of_accepts h
  exact (accepts_required_iff opened).mp (accepts_keywords_iff.mp h _ (.tail _ (.head _))) name
    hname

/-- The list of fields, each of which satisfies the schema of fields. -/
theorem exists_entries :
    ∃ entries, (document.member "fields").opened = .list entries ∧
      ∀ entry ∈ entries, fieldSchema.Accepts entry := by
  obtain ⟨fields, part⟩ := exists_part h (.tail _ (.head _))
  have accepted := accepts_members_iff.mp (accepts_members h) "fields" _
    (.tail _ (.tail _ (.tail _ (.tail _ (.head _))))) fields part
  have all := accepts_keywords_iff.mp accepted
  obtain ⟨entries, opened⟩ := holds_array_iff.mp (accepts_type_iff.mp (all _ (.head _)))
  have member : document.member "fields" = fields := by
    rw [Value.member, part]
    rfl
  refine ⟨entries, member ▸ opened, fun entry hentry => ?_⟩
  obtain ⟨index, here⟩ := List.mem_iff_getElem?.mp hentry
  exact accepts_items_iff.mp (all _ (.tail _ (.head _))) index entry
    (Value.part?_item_eq_some_iff.mpr ⟨entries, opened, here⟩)

theorem isValid_of_mem_fieldsIn {f : FieldDefinition} (hf : f ∈ fieldsIn document) :
    f.IsValid := by
  obtain ⟨entries, opened, accepted⟩ := exists_entries h
  rw [fieldsIn, opened] at hf
  obtain ⟨entry, hentry, rfl⟩ := List.mem_map.mp hf
  exact isValid_fieldIn (accepted entry hentry)

theorem isHelp_errorHelp : (document.member "errorHelp").IsHelp :=
  isHelp_of_member_cases (member_cases (accepts_members h) (.tail _ (.tail _ (.head _))))

/-- The model is a mapping, or nothing. -/
theorem toTable_model : (document.member "model").toTable = .ok (modelIn document) := by
  unfold modelIn
  rcases member_cases (accepts_members h) (.tail _ (.tail _ (.tail _ (.head _)))) with
    none | accepted
  · rw [none]
    rfl
  · obtain ⟨entries, opened⟩ := holds_object_iff.mp
      (accepts_type_iff.mp (accepts_keywords_iff.mp accepted _ (.head _)))
    rw [Value.toTable_of_opened opened, opened]

/-- **The loader gives the definition in a document that the schema accepts.** -/
theorem ofDocument_of_accepts (path : String) (settings : Settings) :
    ofDocument path settings document = .ok (inDocument settings document) := by
  obtain ⟨members, opened⟩ := opened_of_accepts h
  obtain ⟨entries, listed, accepted⟩ := exists_entries h
  obtain ⟨name, named⟩ := exists_part h (.head _)
  have get (name : String) : FormOptions.member? members name = document.part? (.member name) := by
    rw [Value.part?, opened]
    rfl
  have fields : fieldsIn document = entries.map fieldIn := by rw [fieldsIn, listed]
  have read : entries.mapM (FieldDefinition.ofEntry path) = .ok (fieldsIn document) := by
    rw [mapM_eq_ok_iff, fields, List.forall₂_map_right_iff, List.forall₂_same]
    exact fun entry hentry => ofEntry_of_accepts path (accepted entry hentry)
  have model : ((document.part? (.member "model")).getD .null).toTable = .ok (modelIn document) :=
    toTable_model h
  have listed : entriesOf path ((document.part? (.member "fields")).getD .null) = .ok entries :=
    entriesOf_of_opened path listed
  have form : document.member "form" = name := by
    rw [Value.member, named]
    rfl
  simp only [ofDocument, opened, get, named, listed, ok_bind, read, model, inDocument, form]
  rfl

/-- The definition in a text of such a document. -/
theorem ofText_of_accepts {text : String} (read : Yaml.read text = .ok document) (path : String)
    (settings : Settings) : ofText path settings text = .ok (inDocument settings document) := by
  rw [ofText, read]
  exact ofDocument_of_accepts h path settings

theorem ofSchema_of_accepts : Issue.ofSchema document = [] := by
  rw [Issue.ofSchema, show schema.findings document = [] from h]
  exact List.mergeSort_nil

/-- All that there is to be said about such a document are the names that come again. -/
theorem ofDocument_eq_ok_iff {members : List (Value × Value)}
    (opened : document.opened = .map members) {issues : List Issue} :
    Issue.ofDocument document = .ok issues ↔ Issue.writable document = .ok () ∧
      ∃ names, Issue.repeatedNames members = .ok names ∧ names.map Issue.sharedName = issues := by
  simp only [Issue.ofDocument, opened, ofSchema_of_accepts h, bind_eq_ok_iff, pure_eq_ok_iff, List.nil_append]
  exact ⟨fun ⟨_, writable, rest⟩ => ⟨writable, rest⟩, fun ⟨writable, rest⟩ => ⟨(), writable, rest⟩⟩

/-- The same holds of a file with such a document. -/
theorem ofFile_eq_ok_iff {members : List (Value × Value)} (opened : document.opened = .map members)
    {issues : List Issue} :
    Issue.ofFile false document = .ok issues ↔ Issue.writable document = .ok () ∧
      ∃ names, Issue.repeatedNames members = .ok names ∧ names.map Issue.sharedName = issues := by
  have examined : Issue.ofFile false document = (Issue.ofDocument document).map id := by
    unfold Issue.ofFile
    split
    · cases opened
    · rfl
  rw [examined, map_eq_ok_iff, ← ofDocument_eq_ok_iff h opened]
  simp only [id_eq, exists_eq_right]

/-- Whoever examines such a document finds nothing worse than warnings. -/
theorem severity_of_accepts {issues : List Issue}
    (examined : Issue.ofFile false document = .ok issues) :
    ∀ i ∈ issues, i.severity = .warning := by
  obtain ⟨members, opened⟩ := opened_of_accepts h
  obtain ⟨-, names, -, rfl⟩ := (ofFile_eq_ok_iff h opened).mp examined
  exact List.forall_mem_map.mpr fun _ _ => rfl

end Documents

/-! ## Documents without errors -/

theorem issuesOf_of_read {text : String} {document : Value} (read : Yaml.read text = .ok document)
    (strict : Bool) : Issue.ofText strict text = Issue.ofFile strict document := by
  rw [Issue.ofText, read]

/-- What a document with a value is examined for. -/
theorem ofFile_of_ne_null (strict : Bool) {document : Value} (present : document ≠ .null) :
    Issue.ofFile strict document = (Issue.ofDocument document).map fun issues =>
      if strict then issues.map Issue.strictly else issues := by
  cases document <;> first | rfl | exact absurd rfl present

/-- Issues with the schema come first. -/
theorem exists_append_of_ofDocument {document : Value} {issues : List Issue}
    (h : Issue.ofDocument document = .ok issues) :
    ∃ more, issues = Issue.ofSchema document ++ more := by
  obtain ⟨-, found⟩ := seq_eq_ok_iff.mp h
  split at found
  · obtain ⟨names, -, found⟩ := bind_eq_ok_iff.mp found
    exact ⟨_, (pure_eq_ok_iff.mp found).symm⟩
  · exact ⟨[], by rw [List.append_nil]; exact (pure_eq_ok_iff.mp found).symm⟩

theorem severity_of_mem_ofSchema {document : Value} {i : Issue} (hi : i ∈ Issue.ofSchema document) :
    i.severity = .error := by
  obtain ⟨f, -, rfl⟩ := List.mem_map.mp (List.mem_mergeSort.mp hi)
  rfl

/-- The schema accepts a document about which there are no errors. -/
theorem accepts_of_ofDocument {document : Value} {issues : List Issue}
    (examined : Issue.ofDocument document = .ok issues)
    (fine : ∀ i ∈ issues, i.severity ≠ .error) : schema.Accepts document := by
  obtain ⟨more, rfl⟩ := exists_append_of_ofDocument examined
  have nothing : Issue.ofSchema document = [] := by
    refine List.eq_nil_iff_forall_not_mem.mpr fun i hi => ?_
    exact fine i (List.mem_append_left more hi) (severity_of_mem_ofSchema hi)
  have findings : ((schema.findings document).map Issue.ofFinding).length = 0 := by
    rw [← List.length_mergeSort, show List.mergeSort _ _ = Issue.ofSchema document from rfl,
      nothing]
    rfl
  exact List.map_eq_nil_iff.mp (List.length_eq_zero_iff.mp findings)

/-- **The schema accepts a document in which no errors are found**, and the same is found if
warnings do not count as errors. -/
theorem accepts_of_ofFile {strict : Bool} {document : Value} {issues : List Issue}
    (examined : Issue.ofFile strict document = .ok issues)
    (fine : ∀ i ∈ issues, i.severity ≠ .error) :
    schema.Accepts document ∧ Issue.ofFile false document = .ok issues := by
  have present : document ≠ .null := by
    rintro rfl
    obtain rfl := Except.ok.inj examined
    exact fine _ List.mem_cons_self rfl
  rw [ofFile_of_ne_null strict present] at examined
  obtain ⟨found, documented, rfl⟩ := map_eq_ok_iff.mp examined
  have same : (if strict then found.map Issue.strictly else found) = found := by
    cases strict with
    | false => rfl
    | true =>
        -- Every issue would be an error, so there is none.
        cases found with
        | nil => rfl
        | cons i rest => exact absurd rfl (fine i.strictly List.mem_cons_self)
  rw [same] at fine ⊢
  refine ⟨accepts_of_ofDocument documented fine, ?_⟩
  rw [ofFile_of_ne_null false present, documented]
  rfl

end FormDefinition

end FormRules
