import FormRules.Form.State
import FormRules.Value.Collection
/-!
# Registering fields and reading their values

Registering compiles the rules of a field, so that a field with unusable rules is not registered.
A name that several fields share is reported, and reads as `false` among the values of the form.
-/
namespace FormRules.Form

/-- The report about a name that several fields share. -/
def sharedName (name : Value) (count : Nat) : String := (Failure.ambiguous name count).message

/-- The rules of a field, compiled, if it has any. -/
def compileRules (field : Field) : FormM (Option Chain) :=
  match field.rules with
  | .str rules => do
      let registries := (← get).registries
      return some (← FormM.lift (Chain.compile registries field.kind.shelf rules))
  | _ => return none

/-- Put a field among the registered ones. -/
def addField (id : FieldId) : FormM Unit := do
  let field ← FormM.field id
  let name := field.name
  if !name.truthy then throw (.configuration .namelessField)
  let chain ← compileRules field
  let bucket ← FormM.lift ((← FormM.form).fields.bucket? name)
  FormM.modifyForm fun f => { f with fields := f.fields.add name ⟨id, chain⟩ }
  let count := (bucket.getD []).length + 1
  if 1 < count then FormM.log .warning (sharedName name count)

/-- Register a field and give it its value from the model, if the model has one. -/
def registerField (id : FieldId) : FormM Unit := do
  addField id
  let field ← FormM.field id
  let model := (← FormM.form).options.model
  if ← FormM.lift (model.hasItem field.name) then
    let value ← FormM.lift (model.item field.name)
    let field ← FormM.lift (field.store value)
    FormM.setField id field

/-- Remove the registrations of a field under its present name. -/
def unregisterField (id : FieldId) : FormM Unit := do
  let name := (← FormM.field id).name
  let _ ← FormM.lift ((← FormM.form).fields.bucket? name)
  FormM.modifyForm fun f => { f with fields := f.fields.remove name id }

/-- The field that is registered under a name. -/
def fieldNamed (name : Value) : FormM FieldId := do
  return (← FormM.lift ((← FormM.form).fields.entry name)).field

/-- The value of the field that is registered under a name. -/
def valueOf (name : Value) : FormM Value := do
  return (← FormM.field (← fieldNamed name)).current

/-- The values of the given names, in order. -/
def valuesOf : List Value → FormM (Table Value)
  | [] => return []
  | name :: rest => do
      let entry := (← FormM.form).fields.entry name
      let value ← match entry with
        | .ok e => pure (← FormM.field e.field).current
        | .error (.ambiguous n count) => do
            FormM.log .warning (sharedName n count)
            pure (.bool false)
        | .error f => throw f
      return (name, value) :: (← valuesOf rest)

/-- The values of all registered fields. -/
def values : FormM (Table Value) := do valuesOf (← FormM.form).fields.keys

/-- The field under a name, unless there is none or several. -/
def uniqueField? (name : Value) : FormM (Option Field) := do
  let fields := (← FormM.form).fields
  if !(← FormM.lift (fields.hasName name)) then return none
  if ← FormM.lift (fields.isAmbiguous name) then return none
  return some (← FormM.field (← fieldNamed name))

/-- The event that validates a field: its own, or that of the form. -/
def triggerEvent (name : Value) : FormM Value := do
  let fallback := (← FormM.form).options.validateOnEvent
  match ← uniqueField? name with
  | some field => if field.validateOnEvent.truthy then return field.validateOnEvent else return fallback
  | none => return fallback

/-- The value that the model has for a name. -/
def initialValue (name : Value) : FormM Value := do
  FormM.lift ((← FormM.form).options.model.entry name)

end FormRules.Form
