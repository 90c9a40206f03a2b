import FormRules.Form.State
/-!
# Recording errors

An update replaces the whole table and then notifies the listeners that were subscribed when it
was applied, in the order of their subscriptions.  A listener gets the table from before the
update and the table as it is when that listener is called.
-/
namespace FormRules.Form

/-- What a detail says: texts and flags are left as they are, any other detail that counts is
written as a text. -/
def saidBy : Value → Outcome Value
  | .str s => .ok (.str s)
  | .bool b => .ok (.bool b)
  | v =>
      if v.truthy then do
        v.writable
        return .str v.text
      else .ok v

/-- The value that is recorded: `false` for no error, a message if there is one, otherwise
`true`. -/
def errorValue (isError : Bool) (detail : Value) : Outcome Value :=
  if !isError then .ok (.bool false)
  else do
    let said ← saidBy detail
    return if said.truthy then said else .bool true

/-- Call listeners, each with the errors as they are when it is called. -/
def notify (call : Caller) (previous : Table Value) : List Subscription → FormM Unit
  | [] => return
  | s :: rest => do
      let current := (← FormM.form).errors.table
      let _ ← call s.listener (.change (.map previous) (.map current))
      notify call previous rest

/-- Record whether a field is invalid, with a detail for the message.  A detail that cannot be
written is not recorded. -/
def setError (call : Caller) (name : Value) (isError : Bool) (detail : Value) : FormM Value := do
  let value ← FormM.lift (errorValue isError detail)
  if !name.isKey then throw .typeMismatch
  let before := (← FormM.form).errors
  FormM.modifyForm fun f => { f with errors := f.errors.record name value }
  notify call before.table before.listeners
  return value

/-- What is recorded for a name, if anything. -/
def recorded? (name : Value) : FormM (Option Value) := do
  if !name.isKey then throw .typeMismatch
  return (← FormM.form).errors.table.find? name

/-- What is recorded for a name; a field that was never validated has no error. -/
def hasError (name : Value) : FormM Value := return (← recorded? name).getD (.bool false)

end FormRules.Form
