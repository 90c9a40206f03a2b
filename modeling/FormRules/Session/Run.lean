import FormRules.Session.Request
/-!
# Carrying out requests

Requests are carried out one after the other; a request that fails leaves what it has done.  The
functions of the client are run by the same interpreter, one level of nesting deeper, and every
call of one is reported before it starts.  The nesting is bounded, so that every session ends.
-/
namespace FormRules.Session

/-! ## What the client holds -/

/-- The field under a client's name. -/
def heldField (id : String) : FormM FieldId := do
  match (← get).held.fields.lookup id with
  | some f => return f
  | none => throw (.noEntry (.str id))

/-- The field that a target refers to. -/
def resolve : Target → FormM FieldId
  | .held id => heldField id
  | .named name => Form.fieldNamed name

/-- Take over what stands where a function can stand. -/
def takeHook (role : Role) : HookSource → FormM Hook
  | .value v => return .value v
  | .script n => return .function (← FormM.newFunction role n)

/-- Make a field and hold it under a name. -/
def makeField (id : String) (s : FieldSource) : FormM FieldId := do
  let validator ← takeHook (.validator (.str id)) s.validator
  let f ← FormM.newField
    ⟨s.name, .ofValue s.kind, s.rules, validator, s.errorHelp, s.validateOnEvent, s.value,
      s.checked, s.files⟩
  modify fun w => { w with held := { w.held with fields := (id, f) :: w.held.fields } }
  return f

/-- The snapshot under a client's name. -/
def heldSnapshot (id : String) : FormM FieldTable := do
  match (← get).held.snapshots.lookup id with
  | some s => return s
  | none => throw (.noEntry (.str id))

/-- The current value of a field as a reply. -/
def replyCurrent (f : FieldId) : FormM Reply := return .value (← FormM.field f).current

/-- The compiled rules of a registration as text. -/
def compiledText (e : Entry) : FormM (Option String) := do
  let name := (← FormM.field e.field).name
  return e.chain.map (·.shown name)

/-- Subscribe a listener, and hold its subscriptions under a client's name. -/
def subscribeHeld (id : String) (listener : Callback) (before : List Subscription) :
    FormM Reply := do
  let (subscription, errors) := (← FormM.form).errors.subscribe listener
  FormM.modifyForm fun f => { f with errors := errors }
  let subscriptions := before ++ [subscription]
  modify fun w => { w with held := { w.held with
    listeners := (id, listener, subscriptions) :: w.held.listeners } }
  return .value (.int subscriptions.length)

/-- Subscribe the listener of a client's name; the first use of a name takes over the function. -/
def subscribe (id : String) (script : Nat) : FormM Reply := do
  match (← get).held.listeners.lookup id with
  | some (listener, before) => subscribeHeld id listener before
  | none => subscribeHeld id (← FormM.newFunction (.listener (.str id)) script) []

/-- End one of the subscriptions under a client's name. -/
def unsubscribe (id : String) (handle : Nat) : FormM Reply := do
  match (← get).held.listeners.lookup id with
  | none => throw (.noEntry (.str id))
  | some (_, subscriptions) => match subscriptions[handle]? with
    | none => throw (.noEntry (.int handle))
    | some s =>
        FormM.modifyForm fun f => { f with errors := f.errors.unsubscribe s }
        return .nothing

/-- A tier by name; the form's override is that of the present options. -/
def tierOf (o : FormOptions) : TierName → Tier
  | .formOverride => .formOverride o.validateOne
  | .fieldOverride => .fieldOverride
  | .rules => .rules
  | .always => .always

/-! ## Requests -/

/-- Carry out a request, given how the client's functions are called. -/
def step (call : Caller) : Request → FormM Reply
  | .make id source => do
      let f ← FormM.field (← makeField id source)
      return .field f.kind f.current
  | .register id source => do
      let f ← match source with
        | some s => makeField id s
        | none => heldField id
      Form.registerField f
      replyCurrent f
  | .unregister target => do
      Form.unregisterField (← resolve target)
      return .nothing
  | .set target v => do
      let id ← resolve target
      let f ← FormM.lift ((← FormM.field id).store v)
      FormM.setField id f
      replyCurrent id
  | .assign target part v => do
      let id ← resolve target
      FormM.setField id (part.assign (← FormM.field id) v)
      replyCurrent id
  | .assignValidator target source => do
      let id ← resolve target
      let role := match target with
        | .held name => .validator (.str name)
        | .named name => .validator name
      let hook ← takeHook role source
      FormM.setField id { ← FormM.field id with validator := hook }
      replyCurrent id
  | .touch target => do replyCurrent (← resolve target)
  | .names => return .list (← FormM.form).fields.keys
  | .sizes => do
      let f ← FormM.form
      return .sizes f.fields.size f.errors.table.length
  | .contains name => do
      return .value (.bool (← FormM.lift ((← FormM.form).fields.hasName name)))
  | .isAmbiguous name => do
      return .value (.bool (← FormM.lift ((← FormM.form).fields.isAmbiguous name)))
  | .compiled name => do
      let e ← FormM.lift ((← FormM.form).fields.entry name)
      match ← compiledText e with
      | some text => return .value (.str text)
      | none => return .nothing
  | .value name => return .value (← Form.valueOf name)
  | .snapshot id => do
      let fields := (← FormM.form).fields
      modify fun w => { w with held := { w.held with snapshots := (id, fields) :: w.held.snapshots } }
      return .list fields.keys
  | .describeSnapshot id name => do
      let s ← heldSnapshot id
      return .description s.keys (← FormM.lift (s.hasName name))
  | .readSnapshot id name => do
      let s ← heldSnapshot id
      let holds ← FormM.lift (s.hasName name)
      let e ← FormM.lift (s.entry name)
      return .entry s.keys holds (← FormM.field e.field).current (← compiledText e)
  | .validateInSnapshot id name context => do
      return .value (.bool (← Form.validateIn call (← heldSnapshot id) name context))
  | .values => return .pairs (← Form.values)
  | .trigger name => return .value (← Form.triggerEvent name)
  | .event name event => do
      match ← Form.handleEvent call name event with
      | some valid => return .value (.bool valid)
      | none => return .nothing
  | .validateField name => return .value (.bool (← Form.validateField call name))
  | .validate => return .verdict (← Form.validate call)
  | .validateAll context => return .verdict (← Form.validateAll call context)
  | .validateOne name context => return .value (.bool (← Form.validateOne call name context))
  | .submit => return .value (.bool (← Form.submit call))
  | .hasError name => return .value (← Form.hasError name)
  | .initial name => return .value (← Form.initialValue name)
  | .status name => return .status (← Form.statusOf name)
  | .error name => return .value ((← Form.recorded? name).getD .null)
  | .setError name isError detail => do
      let before := (← FormM.form).errors
      let stored ← Form.setError call name isError.truthy detail
      let after := (← FormM.form).errors
      return .recorded stored (before.updates != after.updates) before.table
  | .subscribe id script => subscribe id script
  | .unsubscribe id handle => unsubscribe id handle
  | .setOption name v => do
      FormM.modifyForm fun f => { f with options := f.options.assign name (.value v) }
      return .nothing
  | .setDefaultHelp v => do
      FormM.modifyForm fun f => { f with defaultHelp := v }
      return .nothing
  | .setTiers names => do
      FormM.modifyForm fun f => { f with tiers := names.map (tierOf f.options) }
      return .nothing
  | .addRule shelf name registration => do
      modify fun w =>
        { w with registries := w.registries.modify shelf (·.register name registration) }
      return .nothing
  | .clearRules shelf => do
      modify fun w => { w with registries := w.registries.modify shelf Registry.clear }
      return .nothing
  | .registerBuiltins => do
      modify fun w => { w with registries := w.registries.withBuiltins }
      return .nothing

/-! ## Scripts -/

/-- The outcome of an operation, as a value to go on with. -/
def outcomeOf {α : Type} (m : FormM α) : FormM (Outcome α) :=
  ExceptT.mk do
    let o ← m.run
    return .ok o

/-- Run a script, given how requests are carried out. -/
def runScript (perform : Request → FormM Reply) : Script → FormM Value
  | .answer v => return v
  | .fail f => throw f
  | .request r next => do
      let reply ← outcomeOf (perform r)
      runScript perform (next reply)

/-- Call a function of the client: count and report the call, then run its script. -/
def callWith (behaviour : Behaviour) (perform : Request → FormM Reply) : Caller := fun f args => do
  modify (·.countCall f)
  FormM.emit (.call f.role args)
  runScript perform (behaviour f.script ((← get).callsOf f) args)

/-- Carry out a request with at most `depth` levels of nested calls. -/
def perform (behaviour : Behaviour) : (depth : Nat) → Request → FormM Reply
  | 0, _ => throw .nestingLimit
  | depth + 1, r => step (callWith behaviour (perform behaviour depth)) r

/-- How deeply calls of the client's functions may be nested. -/
def nestingLimit : Nat := 1000

/-- What a client learns from a request: its outcome, what could be noticed meanwhile, in order,
and the errors recorded afterwards. -/
structure Report where
  outcome : Outcome Reply
  events : List Event
  errors : Table Value

/-- The events of a world that are newer than `count`, in order. -/
def eventsSince (count : Nat) (w : World) : List Event :=
  (w.trace.take (w.trace.length - count)).reverse

/-- Carry out requests one after the other. -/
def run (behaviour : Behaviour) : World → List Request → List Report
  | _, [] => []
  | w, r :: rest =>
      let (outcome, w') := (perform behaviour nestingLimit r).runIn w
      ⟨outcome, eventsSince w.trace.length w', w'.form.errors.table⟩ :: run behaviour w' rest

end FormRules.Session
