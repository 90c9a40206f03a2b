/-
# Loading — a document without errors is loaded as it stands

Two gatekeepers read a document: the schema, when it is examined, and the loader, when a form is to
be made of it.  They were written apart.  `ofDocument_complete` says that they nest: the loader takes
every document about which there are no errors, and drops nothing of it.

    in the document                     in the definition
    form                                the name
    fields, an entry                    a field, at the same place of the list
      name, rules, errorHelp,
      validateOnEvent                   the same value, or nothing where there is none
      kind                              the kind with this label; text where there is none
    errorHelp                           the same value, or nothing where there is none
    validateOnEvent                     the same value, or that of the settings
    model                               the same entries, or none

`FormDefinition.IsAsIn` is this table.  It is said of the value of a member as it is found in the
document, and so does not mention the functions that the loader reads it with.
-/
import FormRules.Proofs.Definition.RuleString
import FormRules.Proofs.Definition.Valid

namespace FormRules

open Schema

/-! ## A definition as it is in a document -/

/-- A field is as its entry has it. -/
structure FieldDefinition.IsAsIn (entry : Value) (f : FieldDefinition) : Prop where
  name : entry.part? (.member "name") = some f.name
  named : ∃ s, f.name = .str s ∧ s ≠ ""
  kind : match entry.part? (.member "kind") with
    | none => f.kind = .text
    | some v => v = .str f.kind.label
  rules : f.rules = entry.member "rules"
  readable : ∀ v, entry.part? (.member "rules") = some v →
    ∃ s rules, v = .str s ∧ Rule.parse s = .ok rules
  errorHelp : f.errorHelp = entry.member "errorHelp"
  validateOnEvent : f.validateOnEvent = entry.member "validateOnEvent"

/-- A definition is as a document has it, and has one field for each entry, in their order. -/
structure FormDefinition.IsAsIn (settings : Settings) (document : Value) (d : FormDefinition) :
    Prop where
  name : document.part? (.member "form") = some d.name
  fields : ∃ entries, (document.member "fields").opened = .list entries ∧
    List.Forall₂ FieldDefinition.IsAsIn entries d.fields
  errorHelp : d.errorHelp = document.member "errorHelp"
  validateOnEvent : d.validateOnEvent =
    (document.part? (.member "validateOnEvent")).getD settings.validateOnEvent
  model : match document.part? (.member "model") with
    | none => d.model = []
    | some m => m.opened = .map d.model

namespace FormDefinition

/-! ## Members of an entry -/

section Entry

variable {entry : Value} (h : fieldSchema.Accepts entry)

include h

theorem accepts_field_members : KeywordAccepts
    (.members
      [("name", textSchema), ("kind", .keywords [.oneOf kindNames]),
        ("rules", .keywords [.type .string, .matching ruleStringSource ruleStringPattern]),
        ("errorHelp", helpSchema), ("validateOnEvent", textSchema)]) entry :=
  accepts_keywords_iff.mp h _ (.tail _ (.tail _ (.tail _ (.head _))))

/-- The schema knows the kinds by the labels that the loader reads. -/
theorem label_kind {v : Value} (given : entry.part? (.member "kind") = some v) :
    v = .str (FieldKind.ofValue v).label := by
  have accepted := accepts_members_iff.mp (accepts_field_members h) "kind" _
    (.tail _ (.head _)) v given
  obtain ⟨label, listed, same⟩ :=
    accepts_oneOf_iff.mp (accepts_keywords_iff.mp accepted _ (.head _))
  obtain rfl := Value.same_str_iff.mp same
  simp only [kindNames, List.mem_cons, List.not_mem_nil, or_false] at listed
  rcases listed with rfl | rfl | rfl | rfl <;> rfl

/-- Rules that the schema accepts can be read. -/
theorem parse_rules {v : Value} (given : entry.part? (.member "rules") = some v) :
    ∃ s rules, v = .str s ∧ Rule.parse s = .ok rules := by
  have accepted := accepts_members_iff.mp (accepts_field_members h) "rules" _
    (.tail _ (.tail _ (.head _))) v given
  have all := accepts_keywords_iff.mp accepted
  obtain ⟨s, rfl⟩ := holds_string_iff.mp (accepts_type_iff.mp (all _ (.head _)))
  have found := accepts_matching_iff.mp (all _ (.tail _ (.head _)))
  obtain ⟨rules, read, -⟩ := search_ruleStringPattern_iff.mp found
  exact ⟨s, rules, rfl, read⟩

theorem isAsIn_fieldIn : FieldDefinition.IsAsIn entry (fieldIn entry) := by
  obtain ⟨members, opened⟩ := opened_of_accepts_field h
  have required := (accepts_required_iff opened).mp
    (accepts_keywords_iff.mp h _ (.tail _ (.head _)))
  obtain ⟨name, given⟩ := required "name" (.head _)
  refine ⟨?name, (isValid_fieldIn h).name, ?kind, rfl, fun _ => parse_rules h, rfl, rfl⟩
  case name =>
    show _ = some (entry.member "name")
    rw [Value.member, given]
    rfl
  case kind =>
    show match entry.part? (.member "kind") with
      | none => FieldKind.ofValue (entry.member "kind") = .text
      | some v => v = .str (FieldKind.ofValue (entry.member "kind")).label
    rw [Value.member]
    split
    · rename_i absent
      rw [absent]
      rfl
    · rename_i v given
      rw [given]
      exact label_kind h given

end Entry

/-! ## Members of a document -/

section Document

variable {document : Value} (h : schema.Accepts document)

include h

theorem opened_model {m : Value} (given : document.part? (.member "model") = some m) :
    m.opened = .map (modelIn document) := by
  have accepted := accepts_members_iff.mp (accepts_members h) "model" _
    (.tail _ (.tail _ (.tail _ (.head _)))) m given
  obtain ⟨entries, opened⟩ := holds_object_iff.mp
    (accepts_type_iff.mp (accepts_keywords_iff.mp accepted _ (.head _)))
  rw [modelIn, Value.member, given, Option.getD_some, opened]

theorem isAsIn_inDocument (settings : Settings) :
    (inDocument settings document).IsAsIn settings document := by
  obtain ⟨name, given⟩ := exists_part h (.head _)
  obtain ⟨entries, listed, accepted⟩ := exists_entries h
  refine ⟨?name, ⟨entries, listed, ?fields⟩, rfl, rfl, ?model⟩
  case name =>
    show _ = some (document.member "form")
    rw [Value.member, given]
    rfl
  case fields =>
    show List.Forall₂ FieldDefinition.IsAsIn entries (fieldsIn document)
    rw [fieldsIn, listed, List.forall₂_map_right_iff, List.forall₂_same]
    intro entry hentry
    exact isAsIn_fieldIn (accepted entry hentry)
  case model =>
    split
    · rename_i absent
      show modelIn document = []
      rw [modelIn, Value.member, absent]
      rfl
    · rename_i m given
      exact opened_model h given

end Document

/-! ## Documents without errors -/

/-- **The loader takes a document about which there are no errors, and the definition is as the
document has it.**  A file that holds such a document is loaded in the same way. -/
theorem ofDocument_complete {document : Value} {issues : List Issue}
    (examined : Issue.ofDocument document = .ok issues)
    (fine : ∀ i ∈ issues, i.severity ≠ .error) (path : String) (settings : Settings) :
    ∃ d : FormDefinition, ofDocument path settings document = .ok d ∧ d.IsAsIn settings document ∧
      ∀ text, Yaml.read text = .ok document → ofText path settings text = .ok d := by
  have accepted : schema.Accepts document := accepts_of_ofDocument examined fine
  refine ⟨inDocument settings document, ofDocument_of_accepts accepted path settings,
    isAsIn_inDocument accepted settings, ?_⟩
  intro text read
  exact ofText_of_accepts accepted read path settings

/-- Fields of every kind.  Two of them share a name, which is worth a warning only. -/
def guestDocument : Value :=
  .map [(.str "form", .str "guests"), (.str "model", .map [(.int 1, .null)]),
    (.str "fields", .list [
      .map [(.str "name", .str "pass"), (.str "kind", .str "file"),
        (.str "rules", .str "!max:2,fileSize:1:2mb\n")],
      .map [(.str "name", .str "agreed"), (.str "kind", .str "checkbox"),
        (.str "errorHelp", .map [(.str "required", .str "Please agree.")])],
      .map [(.str "name", .str "pass"), (.str "validateOnEvent", .str "blur")],
      .map [(.str "name", .str "note"), (.str "kind", .str "other")]])]

theorem accepts_guestDocument : schema.Accepts guestDocument := by
  unfold Schema.Accepts
  rfl

/-- The document has a warning, and its fields are loaded with their kinds. -/
theorem guestDocument_complete :
    Issue.ofDocument guestDocument = .ok [Issue.sharedName (.str "pass")] ∧
      ∃ d, ofDocument "guests.yaml" (.ofEnvironment []) guestDocument = .ok d ∧
        d.IsAsIn (.ofEnvironment []) guestDocument ∧
        d.fields.map (·.kind) = [.file, .checkbox, .text, .other] := by
  have examined : Issue.ofDocument guestDocument = .ok [Issue.sharedName (.str "pass")] :=
    (ofDocument_eq_ok_iff accepts_guestDocument rfl).mpr ⟨rfl, [.str "pass"], rfl, rfl⟩
  have fine : ∀ i ∈ [Issue.sharedName (.str "pass")], i.severity ≠ .error := by
    intro i hi
    rw [List.mem_singleton.mp hi]
    exact Severity.noConfusion
  obtain ⟨d, loaded, asIn, -⟩ :=
    ofDocument_complete examined fine "guests.yaml" (.ofEnvironment [])
  refine ⟨examined, d, loaded, asIn, ?_⟩
  obtain rfl : inDocument (.ofEnvironment []) guestDocument = d := Except.ok.inj loaded
  rfl

end FormDefinition

end FormRules
