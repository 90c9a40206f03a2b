import FormRules.Failure
/-!
# Registries of predicates

A registry maps rule names to predicates.  A predicate is registered together with an optional
check of its parameters, and the first registration of a name stays until everything is cleared.

The predicates and the checks are kept in two tables.  A name is known if it has a predicate; a check
is stored only if one is given, and only along with the predicate.
-/
namespace FormRules

/-- A predicate over a value and parameters.  It passes if it gives exactly `true`.  Calls of a
predicate with a label are reported under it. -/
structure Predicate where
  label : Option String
  apply : Value → List String → Outcome Value

/-- A check of a rule's parameters. -/
abbrev ParamCheck := List String → Outcome Unit

/-- What is registered under a name. -/
structure Registration where
  predicate : Predicate
  check : Option ParamCheck

/-- A named table of predicates, and a table of the checks of their parameters. -/
structure Registry where
  name : String
  predicates : List (String × Predicate)
  checks : List (String × ParamCheck)

namespace Registry

def empty (name : String) : Registry := ⟨name, [], []⟩

/-- What the tables hold under a name: a predicate, and a check if there is one. -/
def find? (r : Registry) (rule : String) : Option Registration :=
  (r.predicates.lookup rule).map fun predicate => ⟨predicate, r.checks.lookup rule⟩

def contains (r : Registry) (rule : String) : Bool := (r.predicates.lookup rule).isSome

/-- Register under a name that is not taken yet.  Without a check the table of checks is left as it
is, and a new check hides one that is there already. -/
def register (r : Registry) (rule : String) (registration : Registration) : Registry :=
  if r.contains rule then r
  else
    { r with
      predicates := r.predicates ++ [(rule, registration.predicate)]
      checks := match registration.check with
        | none => r.checks
        | some check => (rule, check) :: r.checks }

/-- The registered names in the order of their characters. -/
def names (r : Registry) : List String := (r.predicates.map (·.1)).mergeSort (· ≤ ·)

def clear (r : Registry) : Registry := { r with predicates := [], checks := [] }

/-- The registration of a rule that must be known. -/
def get (r : Registry) (rule : String) : Outcome Registration :=
  match r.find? rule with
  | some registration => .ok registration
  | none => misconfigured (.unknownRule rule r.name r.names)

/-- Check the parameters of a rule. -/
def checkParams (r : Registry) (rule : String) (params : List String) : Outcome Unit := do
  let registration ← r.get rule
  match registration.check with
  | none => return
  | some check => match check params with
    | .ok () => return
    | .error f =>
        if f.isRejection then misconfigured (.rejectedParams rule params f.message) else .error f

/-- A registry by its name and size. -/
def shown (r : Registry) : String :=
  "ValidatorRegistry(" ++ Text.quote r.name ++ ", rules=" ++ toString r.predicates.length ++ ")"

end Registry

/-- The two registries that rule names are looked up in. -/
structure Registries where
  standard : Registry
  file : Registry

/-- Which of the two registries. -/
inductive Shelf where
  | standard
  | file
deriving DecidableEq, Repr, Inhabited

namespace Registries

def get (r : Registries) : Shelf → Registry
  | .standard => r.standard
  | .file => r.file

/-- Change one of the registries. -/
def modify (r : Registries) (s : Shelf) (f : Registry → Registry) : Registries :=
  match s with
  | .standard => { r with standard := f r.standard }
  | .file => { r with file := f r.file }

end Registries

end FormRules
