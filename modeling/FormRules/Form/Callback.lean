import FormRules.Value.Basic
/-!
# Functions of the client

A client hands functions to a form: overrides of validation, submit callbacks and listeners.  Only
their identity is kept here; what they do is known where they are called.
-/
namespace FormRules

/-- What a function was handed over for. -/
inductive Role where
  | validateOne
  | validator (id : Value)
  | validateAll
  | accept
  | reject
  | listener (id : Value)
deriving Inhabited

/-- A function of the client: what it was handed over for, the script it follows, and a number that
no other function has. -/
structure Callback where
  role : Role
  script : Nat
  number : Nat
deriving Inhabited

namespace Callback

/-- Two references are to one function. -/
def same (a b : Callback) : Bool := a.number == b.number

end Callback

/-- What a client may hand over where a function can stand. -/
inductive Hook where
  /-- A value that cannot be called, in particular nothing. -/
  | value (v : Value)
  | function (f : Callback)
  /-- The function that does nothing. -/
  | ignore
deriving Inhabited

namespace Hook

def none : Hook := .value .null

def isCallable : Hook → Bool
  | .value _ => false
  | _ => true

end Hook

/-- What a function is called with. -/
inductive Arguments where
  /-- A field of a form by name and value, and the values of all fields. -/
  | field (name value context : Value)
  | value (value context : Value)
  | form (context : Value)
  | accepted (values : Value)
  | rejected (failed : List Value) (values : Value)
  /-- The errors before and after a change. -/
  | change (previous current : Value)

end FormRules
