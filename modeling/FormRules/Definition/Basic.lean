import FormRules.Settings
/-!
# Form definitions

A form can be defined by a document: a mapping with the form's name, a list of fields, and
optionally a model, messages and the event that triggers validation.  Reading a document into a
definition checks only what is needed to build a form.
-/
namespace FormRules

/-- A field of a definition. -/
structure FieldDefinition where
  name : Value
  kind : FieldKind
  rules : Value
  errorHelp : Value
  validateOnEvent : Value
deriving Inhabited

/-- The definition of a form. -/
structure FormDefinition where
  name : Value
  fields : List FieldDefinition
  errorHelp : Value
  validateOnEvent : Value
  model : Table Value
deriving Inhabited

namespace FieldDefinition

/-- A field of a definition from its entry in a document. -/
def ofEntry (path : String) (entry : Value) : Outcome FieldDefinition :=
  match entry.opened with
  | .map members =>
      let get (name : String) : Value := (FormOptions.member? members name).getD .null
      if !(get "name").truthy then misconfigured (.namelessEntry path)
      else
        .ok ⟨get "name", .ofValue (get "kind"), get "rules", get "errorHelp",
          get "validateOnEvent"⟩
  | _ => do
      entry.writable
      misconfigured (.entryNotMapping path entry)

end FieldDefinition

namespace FormDefinition

/-- The entries of the list of fields; a value that does not count has none. -/
def entriesOf (path : String) (fields : Value) : Outcome (List Value) :=
  if !fields.truthy then .ok []
  else match fields.opened with
    | .list entries => .ok entries
    | _ => misconfigured (.fieldsNotList path)

/-- A definition from a document that was read from a file of the given path. -/
def ofDocument (path : String) (settings : Settings) (document : Value) :
    Outcome FormDefinition :=
  match document.opened with
  | .map members => do
      let get (name : String) : Option Value := FormOptions.member? members name
      let some name := get "form" | misconfigured (.noForm path)
      let entries ← entriesOf path ((get "fields").getD .null)
      let fields ← entries.mapM (FieldDefinition.ofEntry path)
      let model ← ((get "model").getD .null).toTable
      return ⟨name, fields, (get "errorHelp").getD .null,
        (get "validateOnEvent").getD settings.validateOnEvent, model⟩
  | _ => misconfigured (.noForm path)

/-- The members that a form's options are made from. -/
def optionMembers (d : FormDefinition) : Table Value :=
  [(.str "model", .map d.model), (.str "errorHelp", d.errorHelp)] ++
    if d.validateOnEvent.truthy then [(.str "validateOnEvent", d.validateOnEvent)] else []

end FormDefinition

end FormRules
