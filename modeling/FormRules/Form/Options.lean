import FormRules.Form.State
import FormRules.Predicate.Builtin
import FormRules.Value.Collection
/-!
# Options of a form

A form is opened with options, which must hold an accept function.  Options may also be made from
a mapping, as it comes from a data file, together with further options by name.
-/
namespace FormRules

/-- The options that have names of their own. -/
inductive OptionName where
  | accept
  | reject
  | model
  | validateOne
  | validateAll
  | validateOnEvent
  | errorHelp
deriving DecidableEq, Repr

namespace OptionName

/-- The name of an option where options are given by name. -/
def text : OptionName → String
  | accept => "on_valid_submit"
  | reject => "on_invalid_submit"
  | model => "model"
  | validateOne => "validate_one"
  | validateAll => "validate_all"
  | validateOnEvent => "validate_on_event"
  | errorHelp => "error_help"

def all : List OptionName :=
  [accept, reject, model, validateOne, validateAll, validateOnEvent, errorHelp]

/-- The option of a name. -/
def ofText? (s : String) : Option OptionName := all.find? (·.text == s)

end OptionName

namespace FormOptions

/-- Where a value is wanted, a function has none. -/
def valueOf : Hook → Value
  | .value v => v
  | _ => .null

/-- Set one option. -/
def assign (o : FormOptions) (name : OptionName) (h : Hook) : FormOptions :=
  match name with
  | .accept => { o with accept := h }
  | .reject => { o with reject := h }
  | .model => { o with model := valueOf h }
  | .validateOne => { o with validateOne := h }
  | .validateAll => { o with validateAll := h }
  | .validateOnEvent => { o with validateOnEvent := valueOf h }
  | .errorHelp => { o with errorHelp := valueOf h }

/-- Names that options have beside those that can be set to some effect. -/
def reservedNames : List String :=
  ["from_dict", "__annotations__", "__dataclass_fields__", "__dataclass_params__", "__delattr__",
    "__dir__", "__doc__", "__eq__", "__format__", "__ge__", "__getattribute__", "__getstate__",
    "__gt__", "__hash__", "__init__", "__init_subclass__", "__le__", "__lt__", "__match_args__",
    "__module__", "__ne__", "__new__", "__reduce__", "__reduce_ex__", "__repr__", "__setattr__",
    "__sizeof__", "__str__", "__subclasshook__"]

/-- The name under which all options are set at once. -/
def allAtOnce : String := "__dict__"

/-- Set one option by name.  Nothing is not set, and the name must be one that options have. -/
def assignNamed (o : FormOptions) (name : String) (h : Hook) : Outcome FormOptions :=
  match h with
  | .value .null => .ok o
  | h => match OptionName.ofText? name with
    | some n => .ok (o.assign n h)
    | none =>
        if reservedNames.contains name then .ok o
        else if name = "__class__" ∨ name = allAtOnce then .error .typeMismatch
        else if name = "__weakref__" then .error .noAttribute
        else misconfigured (.unknownOption name)

/-- Set one option by name after all have been set at once, by a mapping.  Names in the mapping are
those of options as well; a model is an option only if it is in the mapping. -/
def assignLate (o : FormOptions) (members : Table Value) (name : String) (h : Hook) :
    Outcome FormOptions :=
  let unknown (known : Outcome FormOptions) : Outcome FormOptions :=
    if members.contains (.str name) then .ok o else known
  match h with
  | .value .null => .ok o
  | h =>
      if name = OptionName.model.text then unknown (misconfigured (.unknownOption name))
      else match o.assignNamed name h with
        | .error (.configuration f) => unknown (.error (.configuration f))
        | outcome => outcome

/-- Set options by name, in order, after all have been set at once. -/
def assignAllLate (o : FormOptions) (members : Table Value) :
    List (String × Hook) → Outcome FormOptions
  | [] => .ok o
  | (name, h) :: rest => do assignAllLate (← o.assignLate members name h) members rest

/-- Set options by name, in order.  A mapping that sets all of them at once holds no functions. -/
def assignAll (o : FormOptions) : List (String × Hook) → Outcome FormOptions
  | [] => .ok o
  | (name, h) :: rest =>
      match if name = allAtOnce then (valueOf h).opened else .null with
      | .map members => assignAllLate default members rest
      | _ => do assignAll (← o.assignNamed name h) rest

/-- An entry of a mapping by name. -/
def member? (data : Table Value) (name : String) : Option Value := data.find? (.str name)

/-- Options from a mapping and further ones by name. -/
def ofMapping (data : Table Value) (named : List (String × Hook)) : Outcome FormOptions := do
  let model ← ((member? data "model").getD .null).toTable
  let o := { FormOptions.default with
    model := .map model
    validateOnEvent := (member? data "validateOnEvent").getD (.str defaultEvent)
    errorHelp := (member? data "errorHelp").getD .null }
  o.assignAll named

end FormOptions

namespace Form

/-- Open a form; the built-in rules are there from then on. -/
def opened (o : FormOptions) : Outcome Form :=
  if o.accept.isCallable then .ok (ofOptions o) else misconfigured .noAcceptCallback

/-- The names that stand for the options as a whole. -/
def wholeNames : List String := ["config", "self"]

/-- Open a form with options that must not be given by name as well. -/
def openedWith (o : FormOptions) (named : List String) : Outcome Form :=
  if named.isEmpty then opened o
  else if named.any wholeNames.contains then .error .typeMismatch
  else misconfigured (.optionsTwice (named.mergeSort (· ≤ ·)))

end Form

end FormRules
