/-
# Shape — the form schema in words

The schema of form definitions is a table of keywords, and what it finds is computed from them.  Here
is said what it asks for, without any of that.

    of a form             it is a mapping with no members but those below
      form                a text that is not empty; it must be there
      fields              a list of fields; it must be there
      model               a mapping
      errorHelp           a text, or texts by rule
      validateOnEvent     a text that is not empty
    of a field            it is a mapping with no members but those below
      name                a text that is not empty; it must be there
      kind                the label of a kind
      rules               a text that can be read into rules with names without marks
      errorHelp           a text, or texts by rule
      validateOnEvent     a text that is not empty

`schema_accepts_iff` says that the schema finds nothing about a value exactly if this describes it.
-/
import FormRules.Proofs.Definition.Loading

namespace FormRules

open Schema

namespace Value

/-- A text that is not empty. -/
def IsWord (v : Value) : Prop := ∃ s, v = .str s ∧ s ≠ ""

/-- One text, or texts by rule. -/
def IsWording (v : Value) : Prop :=
  (∃ s, v = .str s) ∨ ∃ entries, v.opened = .map entries ∧ ∀ e ∈ entries, ∃ s, e.2 = .str s

/-- The label of a kind of fields. -/
def IsLabel (v : Value) : Prop := ∃ kind : FieldKind, v = .str kind.label

/-- A text that can be read into rules with names without marks. -/
def IsRuleString (v : Value) : Prop :=
  ∃ s rules, v = .str s ∧ Rule.parse s = .ok rules ∧ ∀ r ∈ rules, Rule.inversion ∉ r.name.toList

/-- A mapping with no members but those of some names. -/
def HasOnly (names : List String) (v : Value) : Prop :=
  ∃ entries, v.opened = .map entries ∧ ∀ e ∈ entries, ∃ name ∈ names, e.1 = .str name

/-- The description of a field. -/
structure DescribesField (v : Value) : Prop where
  members : v.HasOnly ["name", "kind", "rules", "errorHelp", "validateOnEvent"]
  name : ∃ u, v.part? (.member "name") = some u ∧ u.IsWord
  kind : ∀ u, v.part? (.member "kind") = some u → u.IsLabel
  rules : ∀ u, v.part? (.member "rules") = some u → u.IsRuleString
  errorHelp : ∀ u, v.part? (.member "errorHelp") = some u → u.IsWording
  validateOnEvent : ∀ u, v.part? (.member "validateOnEvent") = some u → u.IsWord

/-- The description of a form. -/
structure DescribesForm (v : Value) : Prop where
  members : v.HasOnly ["form", "validateOnEvent", "errorHelp", "model", "fields"]
  form : ∃ u, v.part? (.member "form") = some u ∧ u.IsWord
  validateOnEvent : ∀ u, v.part? (.member "validateOnEvent") = some u → u.IsWord
  errorHelp : ∀ u, v.part? (.member "errorHelp") = some u → u.IsWording
  model : ∀ u, v.part? (.member "model") = some u → ∃ entries, u.opened = .map entries
  fields : ∃ u entries, v.part? (.member "fields") = some u ∧ u.opened = .list entries ∧
    ∀ entry ∈ entries, entry.DescribesField

end Value

/-! ## Keywords of a mapping -/

namespace Schema

variable {v : Value}

theorem accepts_closed_iff {names : List String} {entries : List (Value × Value)}
    (hv : v.opened = .map entries) :
    KeywordAccepts (.closed names) v ↔ ∀ e ∈ entries, ∃ name ∈ names, e.1 = .str name := by
  have none : KeywordAccepts (.closed names) v ↔ unknownMembers names entries = [] := by
    simp only [KeywordAccepts, findingsOf, hv]
    split
    · rename_i nothing
      exact iff_of_true rfl nothing
    · rename_i some
      exact iff_of_false (List.cons_ne_nil _ _) some
  rw [none, unknownMembers, List.filter_eq_nil_iff, List.forall_mem_map]
  simp [Value.same_str_iff]

theorem accepts_keyword_iff {k : Keyword} : Accepts (.keywords [k]) v ↔ KeywordAccepts k v := by
  rw [accepts_keywords_iff, List.forall_mem_singleton]

theorem accepts_keyword_pair_iff {k l : Keyword} :
    Accepts (.keywords [k, l]) v ↔ KeywordAccepts k v ∧ KeywordAccepts l v := by
  rw [accepts_keywords_iff, List.forall_mem_cons, List.forall_mem_singleton]

/-- A mapping that may have some members, must have some of them, and whose members have schemas of
their own. -/
theorem accepts_mapping_iff {required names : List String} {schemas : List (String × Schema)} :
    Accepts (.keywords [.type .object, .required required, .closed names, .members schemas]) v ↔
      v.HasOnly names ∧ (∀ name ∈ required, ∃ u, v.part? (.member name) = some u) ∧
        ∀ e ∈ schemas, ∀ u, v.part? (.member e.1) = some u → Accepts e.2 u := by
  simp only [accepts_keywords_iff, List.forall_mem_cons, List.not_mem_nil, false_imp_iff,
    implies_true, and_true, accepts_type_iff, holds_object_iff]
  constructor
  · rintro ⟨⟨entries, opened⟩, required, closed, members⟩
    refine ⟨⟨entries, opened, (accepts_closed_iff opened).mp closed⟩,
      (accepts_required_iff opened).mp required, fun e he => ?_⟩
    exact accepts_members_iff.mp members e.1 e.2 he
  · rintro ⟨⟨entries, opened, closed⟩, required, members⟩
    refine ⟨⟨entries, opened⟩, (accepts_required_iff opened).mpr required,
      (accepts_closed_iff opened).mpr closed, ?_⟩
    exact accepts_members_iff.mpr fun name s hs => members (name, s) hs

end Schema

namespace FormDefinition

variable {v : Value}

/-! ## Schemas of members -/

theorem textSchema_accepts_iff : textSchema.Accepts v ↔ v.IsWord := by
  refine ⟨text_of_accepts, ?_⟩
  rintro ⟨s, rfl, full⟩
  have long : 1 ≤ s.toList.length := List.length_pos_iff.mpr fun empty =>
    full (String.toList_eq_nil_iff.mp empty)
  rw [textSchema, accepts_keyword_pair_iff, accepts_type_iff, holds_string_iff,
    accepts_leastLength_iff]
  exact ⟨⟨s, rfl⟩, long⟩

theorem string_accepts_iff : Accepts (.keywords [.type .string]) v ↔ ∃ s, v = .str s := by
  rw [accepts_keyword_iff, accepts_type_iff, holds_string_iff]

theorem helpSchema_accepts_iff : helpSchema.Accepts v ↔ v.IsWording := by
  have texts : Accepts (.keywords [.type .object, .others (.keywords [.type .string])]) v ↔
      ∃ entries, v.opened = .map entries ∧ ∀ e ∈ entries, ∃ s, e.2 = .str s := by
    rw [accepts_keyword_pair_iff, accepts_type_iff, holds_object_iff]
    constructor
    · rintro ⟨⟨entries, opened⟩, all⟩
      refine ⟨entries, opened, fun e he => string_accepts_iff.mp ?_⟩
      exact (accepts_others_iff opened).mp all e he
    · rintro ⟨entries, opened, all⟩
      refine ⟨⟨entries, opened⟩, (accepts_others_iff opened).mpr fun e he => ?_⟩
      exact string_accepts_iff.mpr (all e he)
  rw [helpSchema, accepts_keyword_iff, accepts_someOf_iff]
  simp only [List.mem_cons, List.not_mem_nil, or_false, exists_eq_or_imp, exists_eq_left,
    string_accepts_iff, texts, Value.IsWording]

theorem kind_accepts_iff : Accepts (.keywords [.oneOf kindNames]) v ↔ v.IsLabel := by
  simp only [accepts_keyword_iff, accepts_oneOf_iff, Value.same_str_iff]
  constructor
  · rintro ⟨label, listed, rfl⟩
    simp only [kindNames, List.mem_cons, List.not_mem_nil, or_false] at listed
    rcases listed with rfl | rfl | rfl | rfl
    · exact ⟨.text, rfl⟩
    · exact ⟨.checkbox, rfl⟩
    · exact ⟨.file, rfl⟩
    · exact ⟨.other, rfl⟩
  · rintro ⟨kind, rfl⟩
    exact ⟨kind.label, by cases kind <;> decide, rfl⟩

theorem rules_accepts_iff :
    Accepts (.keywords [.type .string, .matching ruleStringSource ruleStringPattern]) v ↔
      v.IsRuleString := by
  rw [accepts_keyword_pair_iff, accepts_type_iff, holds_string_iff]
  constructor
  · rintro ⟨⟨s, rfl⟩, matched⟩
    obtain ⟨rules, read, markless⟩ :=
      search_ruleStringPattern_iff.mp (accepts_matching_iff.mp matched)
    exact ⟨s, rules, rfl, read, markless⟩
  · rintro ⟨s, rules, rfl, read, markless⟩
    exact ⟨⟨s, rfl⟩, accepts_matching_iff.mpr
      (search_ruleStringPattern_iff.mpr ⟨rules, read, markless⟩)⟩

theorem object_accepts_iff :
    Accepts (.keywords [.type .object]) v ↔ ∃ entries, v.opened = .map entries := by
  rw [accepts_keyword_iff, accepts_type_iff, holds_object_iff]

theorem items_accepts_iff {s : Schema} :
    Accepts (.keywords [.type .array, .items s]) v ↔
      ∃ items, v.opened = .list items ∧ ∀ item ∈ items, s.Accepts item := by
  simp only [accepts_keyword_pair_iff, accepts_type_iff, holds_array_iff, accepts_items_iff,
    Value.part?_item_eq_some_iff]
  constructor
  · rintro ⟨⟨items, opened⟩, all⟩
    refine ⟨items, opened, fun item hitem => ?_⟩
    obtain ⟨index, here⟩ := List.mem_iff_getElem?.mp hitem
    exact all index item ⟨items, opened, here⟩
  · rintro ⟨items, opened, all⟩
    refine ⟨⟨items, opened⟩, ?_⟩
    rintro index item ⟨xs, opened', here⟩
    obtain rfl := Value.list.inj (opened.symm.trans opened')
    exact all item (List.mem_of_getElem? here)

/-! ## Fields and forms -/

/-- A member that must be there, and has a schema. -/
theorem exists_and_forall_part_iff {step : Step} {P : Value → Prop} :
    ((∃ u, v.part? step = some u) ∧ ∀ u, v.part? step = some u → P u) ↔
      ∃ u, v.part? step = some u ∧ P u := by
  constructor
  · rintro ⟨⟨u, part⟩, all⟩
    exact ⟨u, part, all u part⟩
  · rintro ⟨u, part, holds⟩
    refine ⟨⟨u, part⟩, fun u' part' => ?_⟩
    obtain rfl := Option.some.inj (part.symm.trans part')
    exact holds

theorem fieldSchema_accepts_iff : fieldSchema.Accepts v ↔ v.DescribesField := by
  rw [fieldSchema, accepts_mapping_iff]
  simp only [List.forall_mem_cons, List.not_mem_nil, false_imp_iff, implies_true, and_true,
    textSchema_accepts_iff, helpSchema_accepts_iff, kind_accepts_iff, rules_accepts_iff]
  constructor
  · rintro ⟨members, named, name, kind, rules, errorHelp, validateOnEvent⟩
    exact ⟨members, exists_and_forall_part_iff.mp ⟨named, name⟩, kind, rules, errorHelp,
      validateOnEvent⟩
  · rintro ⟨members, name, kind, rules, errorHelp, validateOnEvent⟩
    obtain ⟨named, name⟩ := exists_and_forall_part_iff.mpr name
    exact ⟨members, named, name, kind, rules, errorHelp, validateOnEvent⟩

/-- **The form schema finds nothing about exactly the values that describe a form.** -/
theorem schema_accepts_iff : schema.Accepts v ↔ v.DescribesForm := by
  rw [schema, accepts_mapping_iff]
  simp only [List.forall_mem_cons, List.not_mem_nil, false_imp_iff, implies_true, and_true,
    textSchema_accepts_iff, helpSchema_accepts_iff, object_accepts_iff, items_accepts_iff,
    fieldSchema_accepts_iff]
  constructor
  · rintro ⟨members, ⟨named, listed⟩, form, validateOnEvent, errorHelp, model, fields⟩
    obtain ⟨u, part, entries, opened, all⟩ := exists_and_forall_part_iff.mp ⟨listed, fields⟩
    exact ⟨members, exists_and_forall_part_iff.mp ⟨named, form⟩, validateOnEvent, errorHelp, model,
      u, entries, part, opened, all⟩
  · rintro ⟨members, form, validateOnEvent, errorHelp, model, u, entries, part, opened, all⟩
    obtain ⟨named, form⟩ := exists_and_forall_part_iff.mpr form
    obtain ⟨listed, fields⟩ := exists_and_forall_part_iff
      (P := fun u => ∃ entries, u.opened = .list entries ∧ ∀ entry ∈ entries, entry.DescribesField)
      |>.mpr ⟨u, part, entries, opened, all⟩
    exact ⟨members, ⟨named, listed⟩, form, validateOnEvent, errorHelp, model, fields⟩

end FormDefinition

end FormRules
