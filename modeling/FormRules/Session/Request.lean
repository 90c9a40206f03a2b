import FormRules.Form.Options
import FormRules.Form.Submission
/-!
# Requests

A client works with a form by requests: it makes fields and keeps hold of them under names of its
own, registers them, sets values, asks, validates and submits.  The functions that it hands over
make the same requests while they run, so what such a function does is a script of requests that
may depend on the replies.
-/
namespace FormRules.Session

/-- What a client hands over where a function can stand: a value, or a function by the script it
follows. -/
inductive HookSource where
  | value (v : Value)
  | script (number : Nat)
deriving Inhabited

/-- What a field is made from. -/
structure FieldSource where
  name : Value
  kind : Value
  rules : Value
  validator : HookSource
  errorHelp : Value
  validateOnEvent : Value
  value : Value
  checked : Value
  files : Value
deriving Inhabited

/-- A field by the client's name for it, or by the name under which it is registered. -/
inductive Target where
  | held (id : String)
  | named (name : Value)
deriving Inhabited

/-- The parts of a field that can be changed directly. -/
inductive FieldPart where
  | name
  | kind
  | rules
  | errorHelp
  | validateOnEvent
  | value
  | checked
  | files
deriving DecidableEq, Repr

namespace FieldPart

/-- A field with one part changed. -/
def assign (p : FieldPart) (f : Field) (v : Value) : Field :=
  match p with
  | name => { f with name := v }
  | kind => { f with kind := .ofValue v }
  | rules => { f with rules := v }
  | errorHelp => { f with errorHelp := v }
  | validateOnEvent => { f with validateOnEvent := v }
  | value => { f with value := v }
  | checked => { f with checked := v }
  | files => { f with files := v }

end FieldPart

/-- Tiers by name. -/
inductive TierName where
  | formOverride
  | fieldOverride
  | rules
  | always
deriving DecidableEq, Repr

/-- What a client can ask for. -/
inductive Request where
  | make (id : String) (source : FieldSource)
  | register (id : String) (source : Option FieldSource)
  | unregister (target : Target)
  | set (target : Target) (value : Value)
  | assign (target : Target) (part : FieldPart) (value : Value)
  | assignValidator (target : Target) (hook : HookSource)
  | touch (target : Target)
  | names
  | sizes
  | contains (name : Value)
  | isAmbiguous (name : Value)
  | compiled (name : Value)
  | value (name : Value)
  | snapshot (id : String)
  | describeSnapshot (id : String) (name : Value)
  | readSnapshot (id : String) (name : Value)
  | validateInSnapshot (id : String) (name context : Value)
  | values
  | trigger (name : Value)
  | event (name event : Value)
  | validateField (name : Value)
  | validate
  | validateAll (context : Value)
  | validateOne (name context : Value)
  | submit
  | hasError (name : Value)
  | initial (name : Value)
  | status (name : Value)
  | error (name : Value)
  | setError (name isError detail : Value)
  | subscribe (id : String) (script : Nat)
  | unsubscribe (id : String) (handle : Nat)
  | setOption (name : OptionName) (value : Value)
  | setDefaultHelp (value : Value)
  | setTiers (names : List TierName)
  | addRule (shelf : Shelf) (name : String) (registration : Registration)
  | clearRules (shelf : Shelf)
  | registerBuiltins

/-- What a client gets in reply. -/
inductive Reply where
  | nothing
  | value (v : Value)
  | list (vs : List Value)
  | pairs (t : Table Value)
  | field (kind : FieldKind) (value : Value)
  | sizes (fields errors : Nat)
  | description (names : List Value) (holds : Bool)
  | entry (names : List Value) (holds : Bool) (value : Value) (compiled : Option String)
  | verdict (v : Verdict)
  | status (s : FieldStatus)
  /-- The value that was recorded, whether the table of errors was replaced, and what the replaced
  table holds. -/
  | recorded (stored : Value) (replaced : Bool) (before : Table Value)
deriving Inhabited

/-- What a function of the client does: it makes requests, and in the end gives a result or
fails. -/
inductive Script where
  | answer (v : Value)
  | fail (f : Failure)
  | request (r : Request) (next : Outcome Reply → Script)

/-- The script that a function follows, by its number, the number of the call and the
arguments. -/
abbrev Behaviour := Nat → Nat → Arguments → Script

end FormRules.Session
