import FormRules.Form.Validation
/-!
# Submission and display

Submitting validates everything and then calls one of two functions, with the values from before
the validation.
-/
namespace FormRules

/-- What is needed to display the state of a field. -/
structure FieldStatus where
  name : Value
  initial : Value
  error : Value
  help : Value

namespace FieldStatus

/-- Whether the field has an error: anything but `false` is recorded. -/
def hasError (s : FieldStatus) : Bool :=
  match s.error with
  | .bool false => false
  | _ => true

end FieldStatus

namespace Form

/-- Names with commas between them; all must be texts. -/
def joinNames (names : List Value) : Outcome String :=
  match names.mapM Value.str? with
  | some texts => .ok (", ".intercalate texts)
  | none => .error .typeMismatch

/-- Hand the values of a submission to the accept or the reject function. -/
def dispatch (call : Caller) (present : Table Value) (verdict : Verdict) : FormM Unit := do
  if verdict.isValid then
    FormM.log .info
      ("Form submitted with " ++ toString present.length ++ " valid field(s)")
    let _ ← FormM.callHook call (← FormM.form).options.accept (.accepted (.map present))
  else
    let names ← FormM.lift (joinNames verdict.failed)
    FormM.log .info ("Form submission rejected: " ++ names)
    let _ ← FormM.callHook call (← FormM.form).options.reject
      (.rejected verdict.failed (.map present))

/-- Validate the form and dispatch its values. -/
def submit (call : Caller) : FormM Bool := do
  let present ← values
  let verdict ← validateAll call (.map present)
  dispatch call present verdict
  return verdict.isValid

/-- The help text of an error: its message, or the field's own plain message. -/
def helpFor (name error : Value) : FormM Value := do
  if error.isStr then return error
  if !error.truthy then return .null
  match ← uniqueField? name with
  | some field => return messageOf field.errorHelp
  | none => return .null

/-- The state of a field for display. -/
def statusOf (name : Value) : FormM FieldStatus := do
  let error ← hasError name
  let help ← helpFor name error
  let initial ← initialValue name
  let initial := match ← uniqueField? name with
    | some field => if field.kind = .checkbox then .bool (checkedState initial) else initial
    | none => initial
  return ⟨name, initial, error, help⟩

end Form

end FormRules
