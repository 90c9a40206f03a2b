import FormRules.Form.Errors
import FormRules.Form.Fields
/-!
# Validation

A field is decided by the first tier that applies to it: the form's override for all fields, the
field's own override, its compiled rules, or nothing, which is always valid.  Only the result
`true` is valid; a text is the message.  A whole pass covers the fields registered at its start.

    tier             applies                 result
    form override    it can be called        of the call with name, value and all values
    field override   it can be called        of the call with value and all values
    rules            the field has rules     of the compiled chain
    always           always                  true
-/
namespace FormRules

/-- How a field is decided. -/
inductive Check where
  | formOverride (hook : Hook)
  | fieldOverride (hook : Hook)
  | rules (chain : Chain)
  | always

/-- The result of a pass over the whole form. -/
structure Verdict where
  isValid : Bool
  failed : List Value
deriving Inhabited

namespace Form

/-- What a tier says about a registered field, if it applies. -/
def checkOf? (field : Field) (chain : Option Chain) : Tier → Option Check
  | .formOverride hook => if hook.isCallable then some (.formOverride hook) else none
  | .fieldOverride => if field.validator.isCallable then some (.fieldOverride field.validator) else none
  | .rules => chain.map .rules
  | .always => some .always

/-- The check of the first tier that applies. -/
def firstCheck? (field : Field) (chain : Option Chain) (tiers : List Tier) : Option Check :=
  tiers.findSome? (checkOf? field chain)

/-- Report the calls of predicates. -/
def emitCalls : List RuleCall → FormM Unit
  | [] => return
  | c :: rest => do
      FormM.emit (.rule c)
      emitCalls rest

/-- Evaluate compiled rules; messages are those of the field and the form as they are now. -/
def runChain (id : FieldId) (chain : Chain) (value : Value) : FormM Value := do
  let w ← get
  let (calls, outcome) := chain.run w.registries (w.field id).errorHelp w.form.defaultHelp value
  emitCalls calls
  FormM.lift outcome

/-- Carry out a check. -/
def runCheck (call : Caller) (id : FieldId) (name value context : Value) : Check → FormM Value
  | .formOverride hook => FormM.callHook call hook (.field name value context)
  | .fieldOverride hook => FormM.callHook call hook (.value value context)
  | .rules chain => runChain id chain value
  | .always => return .bool true

/-- The message in a result, if it is one. -/
def messageOf (result : Value) : Value := if result.isStr then result else .null

/-- Decide a registered field and record the result. -/
def validateEntry (call : Caller) (name context : Value) (entry : Entry) : FormM Bool := do
  let field ← FormM.field entry.field
  let some check := firstCheck? field entry.chain (← FormM.form).tiers | throw .noTier
  let value ← FormM.lift (context.entry name)
  let result ← runCheck call entry.field name value context check
  let _ ← setError call name (!result.isTrue) (messageOf result)
  return result.isTrue

/-- Validate one field, looked up among the given registrations.  A name that several fields share
is reported and invalid. -/
def validateIn (call : Caller) (fields : FieldTable) (name context : Value) : FormM Bool :=
  match fields.entry name with
  | .ok entry => validateEntry call name context entry
  | .error (.ambiguous n count) => do
      FormM.log .warning (sharedName n count ++ "; treating it as invalid")
      return false
  | .error f => throw f

/-- Validate one field as registered now. -/
def validateOne (call : Caller) (name context : Value) : FormM Bool := do
  validateIn call (← FormM.form).fields name context

/-- The names among those given whose field fails. -/
def failing (call : Caller) (fields : FieldTable) (context : Value) :
    List Value → FormM (List Value)
  | [] => return []
  | name :: rest => do
      let valid ← validateIn call fields name context
      let later ← failing call fields context rest
      return if valid then later else name :: later

/-- Record that those of the names are valid that a whole-form result does not mention. -/
def clearUnmentioned (call : Caller) (failures : Table Value) : List Value → FormM Unit
  | [] => return
  | name :: rest => do
      if !failures.contains name then
        let _ ← setError call name false .null
      clearUnmentioned call failures rest

/-- Record the failures of a whole-form result; names that were not registered are reported. -/
def recordFailures (call : Caller) (names : List Value) : Table Value → FormM Unit
  | [] => return
  | (name, detail) :: rest => do
      if names.any (·.same name) then
        let _ ← setError call name true detail
      else FormM.log .warning ("Form validator reported unknown field '" ++ name.text ++ "'")
      recordFailures call names rest

/-- The failures that a whole-form result reports, if it is `true` or a mapping. -/
def failuresOf? : Value → Option (Table Value)
  | .bool true => some []
  | v => match v.opened with
    | .map failures => some failures
    | _ => none

/-- Take over the result of a whole-form override for the names of a pass. -/
def applyResult (call : Caller) (names : List Value) (result : Value) : FormM Verdict :=
  match failuresOf? result with
  | some failures => do
      clearUnmentioned call failures names
      recordFailures call names failures
      return ⟨result.isTrue, failures.keys⟩
  | none => do
      FormM.log .warning
        ("Form validator returned " ++ result.shown ++
          " instead of True or a mapping; treating the form as invalid")
      return ⟨false, []⟩

/-- Validate the whole form. -/
def validateAll (call : Caller) (context : Value) : FormM Verdict := do
  let f ← FormM.form
  if f.wholeOverride.isCallable then
    applyResult call f.fields.keys (← FormM.callHook call f.wholeOverride (.form context))
  else
    let failed ← failing call f.fields context f.fields.keys
    return ⟨failed.isEmpty, failed⟩

/-- Validate the field of a name with the present values. -/
def validateField (call : Caller) (name : Value) : FormM Bool := do
  validateOne call name (.map (← values))

/-- Validate the whole form with the present values. -/
def validate (call : Caller) : FormM Verdict := do validateAll call (.map (← values))

/-- React to an event of a field: validate it if the event is the one that does so. -/
def handleEvent (call : Caller) (name event : Value) : FormM (Option Bool) := do
  if event.equals (← triggerEvent name) then return some (← validateField call name)
  else return none

end Form

end FormRules
