import FormRules.Form.Field
import FormRules.Rule.Chain
/-!
# The state of a form

A form holds its configuration, the registered fields by name, the recorded errors with their
listeners, and the tiers by which a field is decided.  Fields are objects: two fields may share a
name, and a change of a field is seen wherever the field is registered.  The world around a form
holds the registries of rules, the field objects, what the client keeps hold of, and the trace of
everything that can be noticed from outside.
-/
namespace FormRules

/-- A field object. -/
abbrev FieldId := Nat

/-- A registered field and its compiled rules, if it has any. -/
structure Entry where
  field : FieldId
  chain : Option Chain
deriving Inhabited

/-- The registered fields by name, in the order in which each name came.  No name comes twice,
every name can be looked up, and none is without a registration. -/
structure FieldTable where
  buckets : Table (List Entry)
  distinct : buckets.Distinct
  isKey : ∀ b ∈ buckets, b.1.isKey = true
  ne_nil : ∀ b ∈ buckets, b.2 ≠ []

namespace FieldTable

/-- No registered fields. -/
def empty : FieldTable where
  buckets := []
  distinct := Table.distinct_nil
  isKey _ h := absurd h List.not_mem_nil
  ne_nil _ h := absurd h List.not_mem_nil

instance : Inhabited FieldTable := ⟨empty⟩

/-- The registered names in order. -/
def keys (t : FieldTable) : List Value := t.buckets.keys

/-- The number of registered names. -/
def size (t : FieldTable) : Nat := t.buckets.length

/-- The registrations under a name, if the name can be looked up. -/
def bucket? (t : FieldTable) (name : Value) : Outcome (Option (List Entry)) :=
  if name.isKey then .ok (t.buckets.find? name) else .error .typeMismatch

/-- The one registration among those under a name. -/
def single (name : Value) : Option (List Entry) → Outcome Entry
  | none => .error (.notRegistered name)
  | some [] => .error (.notRegistered name)
  | some [e] => .ok e
  | some entries => .error (.ambiguous name entries.length)

/-- The one registration under a name. -/
def entry (t : FieldTable) (name : Value) : Outcome Entry := do single name (← t.bucket? name)

/-- Whether a name is registered. -/
def hasName (t : FieldTable) (name : Value) : Outcome Bool :=
  return (← t.bucket? name).isSome

/-- Whether several fields are registered under a name. -/
def isAmbiguous (t : FieldTable) (name : Value) : Outcome Bool := do
  return 1 < ((← t.bucket? name).getD []).length

/-- The table with other registrations under a name.  No registrations, or a name that cannot be
looked up, change nothing. -/
def put (t : FieldTable) (name : Value) (entries : List Entry) : FieldTable :=
  if h : name.isKey = true ∧ entries ≠ [] then
    { buckets := t.buckets.put name entries
      distinct := Table.distinct_put t.distinct name entries
      isKey := by
        intro b hb
        rcases Table.mem_put hb with hb | ⟨-, hb | hb⟩
        · exact t.isKey b hb
        · exact hb ▸ h.1
        · obtain ⟨b', hb', same⟩ := List.mem_map.mp hb
          exact same ▸ t.isKey b' hb'
      ne_nil := by
        intro b hb
        rcases Table.mem_put hb with hb | ⟨hb, -⟩
        · exact t.ne_nil b hb
        · exact hb ▸ h.2 }
  else t

/-- The table without a name. -/
def erase (t : FieldTable) (name : Value) : FieldTable where
  buckets := t.buckets.erase name
  distinct := Table.distinct_erase t.distinct name
  isKey b hb := t.isKey b ((Table.sublist_erase t.buckets name).subset hb)
  ne_nil b hb := t.ne_nil b ((Table.sublist_erase t.buckets name).subset hb)

/-- Add a registration behind those under its name. -/
def add (t : FieldTable) (name : Value) (e : Entry) : FieldTable :=
  t.put name ((t.buckets.find? name).getD [] ++ [e])

/-- Remove all registrations of a field under a name, and the name with the last one. -/
def remove (t : FieldTable) (name : Value) (id : FieldId) : FieldTable :=
  match t.buckets.find? name with
  | none => t
  | some entries =>
      let remaining := entries.filter (·.field != id)
      if remaining.isEmpty then t.erase name else t.put name remaining

end FieldTable

/-- A subscription of a listener; its ticket tells it from the others. -/
structure Subscription where
  listener : Callback
  ticket : Nat
deriving Inhabited

/-- The recorded errors by field name: `false` for a valid field, `true` or a message for an
invalid one.  Updates are counted, so that a holder of an earlier table can tell that it has been
replaced. -/
structure ErrorState where
  table : Table Value
  updates : Nat
  listeners : List Subscription
  tickets : Nat

namespace ErrorState

def empty : ErrorState := ⟨[], 0, [], 0⟩

/-- Record a value for a name. -/
def record (s : ErrorState) (name value : Value) : ErrorState :=
  { s with table := s.table.put name value, updates := s.updates + 1 }

/-- Subscribe a listener behind the others. -/
def subscribe (s : ErrorState) (listener : Callback) : Subscription × ErrorState :=
  let subscription := ⟨listener, s.tickets⟩
  (subscription,
    { s with listeners := s.listeners ++ [subscription], tickets := s.tickets + 1 })

/-- End a subscription: the first one of the same listener is removed. -/
def unsubscribe (s : ErrorState) (subscription : Subscription) : ErrorState :=
  { s with listeners := s.listeners.eraseP (·.listener.same subscription.listener) }

end ErrorState

/-- One source of a decision about a field. -/
inductive Tier where
  /-- The form's override for all fields. -/
  | formOverride (hook : Hook)
  | fieldOverride
  | rules
  | always
deriving Inhabited

/-- Options of a form. -/
structure FormOptions where
  accept : Hook
  reject : Hook
  model : Value
  validateOne : Hook
  validateAll : Hook
  validateOnEvent : Value
  errorHelp : Value
deriving Inhabited

/-- The event that triggers validation unless something else is said. -/
def defaultEvent : String := "onChange"

namespace FormOptions

/-- The options of which nothing is said. -/
def default : FormOptions :=
  ⟨.none, .ignore, .map [], .none, .none, .str defaultEvent, .null⟩

end FormOptions

/-- A form.  The message source of its compiled rules and its override of whole passes are taken
from the options once. -/
structure Form where
  options : FormOptions
  defaultHelp : Value
  wholeOverride : Hook
  tiers : List Tier
  fields : FieldTable
  errors : ErrorState

namespace Form

/-- A form without fields. -/
def ofOptions (o : FormOptions) : Form :=
  ⟨o, o.errorHelp, o.validateAll,
    [.formOverride o.validateOne, .fieldOverride, .rules, .always], .empty, .empty⟩

end Form

/-- How important a report is. -/
inductive Level where
  | info
  | warning
deriving DecidableEq, Repr

/-- What can be noticed from outside. -/
inductive Event where
  | rule (call : RuleCall)
  | call (role : Role) (arguments : Arguments)
  | log (level : Level) (message : String)

/-- What the client keeps hold of, under names of its own: fields, snapshots of the registered
fields, and listeners with their subscriptions. -/
structure Holdings where
  fields : List (String × FieldId)
  snapshots : List (String × FieldTable)
  listeners : List (String × Callback × List Subscription)

/-- Everything that operations on a form can see or change.  The trace has the latest event
first; functions are numbered as they are handed over, and their calls are counted.  The states
that the form was in before the present one are kept as well, the latest first, but no operation
reads them. -/
structure World where
  registries : Registries
  objects : List Field
  functions : Nat
  calls : List (Nat × Nat)
  trace : List Event
  form : Form
  past : List Form
  held : Holdings

namespace World

/-- The world of a form in which nothing has happened. -/
def initial (registries : Registries) (form : Form) : World :=
  ⟨registries, [], 0, [], [], form, [], ⟨[], [], []⟩⟩

/-- A field object. -/
def field (w : World) (id : FieldId) : Field := (w.objects[id]?).getD default

/-- The world with a changed field object. -/
def setField (w : World) (id : FieldId) (f : Field) : World :=
  { w with objects := w.objects.set id f }

/-- The world in which the form has come into another state. -/
def changing (w : World) (g : Form → Form) : World :=
  { w with form := g w.form, past := w.form :: w.past }

/-- The world in which an event has been reported. -/
def noted (w : World) (e : Event) : World := { w with trace := e :: w.trace }

@[simp] theorem form_noted (w : World) (e : Event) : (w.noted e).form = w.form := rfl

/-- The number of calls of a function so far. -/
def callsOf (w : World) (f : Callback) : Nat := (w.calls.lookup f.number).getD 0

/-- The world in which a function has been called once more. -/
def countCall (w : World) (f : Callback) : World :=
  let n := w.callsOf f + 1
  { w with calls := (f.number, n) :: w.calls.filter (·.1 != f.number) }

end World

/-- An operation on the world.  What has been done stays done when an operation fails. -/
abbrev FormM := ExceptT Failure (StateM World)

/-- How a function of the client is called. -/
abbrev Caller := Callback → Arguments → FormM Value

namespace FormM

/-- What an operation gives in a world, and the world it leaves. -/
def runIn {α : Type} (m : FormM α) (w : World) : Outcome α × World := m.run.run w

/-- An outcome that does not depend on the world. -/
def lift {α : Type} (o : Outcome α) : FormM α := ExceptT.mk (pure o)

/-- Report an event. -/
def emit (e : Event) : FormM Unit := modify (·.noted e)

/-- Report a message. -/
def log (level : Level) (message : String) : FormM Unit := emit (.log level message)

/-- Change the form. -/
def modifyForm (f : Form → Form) : FormM Unit := modify (·.changing f)

/-- The form as it is. -/
def form : FormM Form := return (← get).form

/-- A field object as it is. -/
def field (id : FieldId) : FormM Field := return (← get).field id

/-- Change a field object. -/
def setField (id : FieldId) (f : Field) : FormM Unit := modify (·.setField id f)

/-- Make a field object. -/
def newField (f : Field) : FormM FieldId := do
  let w ← get
  set { w with objects := w.objects ++ [f] }
  return w.objects.length

/-- Take over a function. -/
def newFunction (role : Role) (script : Nat) : FormM Callback := do
  let w ← get
  set { w with functions := w.functions + 1 }
  return ⟨role, script, w.functions⟩

/-- Call what a client has handed over as a function. -/
def callHook (call : Caller) (hook : Hook) (arguments : Arguments) : FormM Value :=
  match hook with
  | .function f => call f arguments
  | .ignore => return .null
  | .value _ => throw .typeMismatch

end FormM

end FormRules
