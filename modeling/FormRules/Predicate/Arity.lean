import FormRules.Failure
/-!
# Counting parameters

A check of parameters has a name, at most one parameter that must be there, and a greatest number
of parameters unless it takes any number.
-/
namespace FormRules.Predicate

/-- The parameters that a check takes. -/
structure Arity where
  function : String
  required : Option String
  most : Option Nat

namespace Arity

def least (a : Arity) : Nat := if a.required.isSome then 1 else 0

/-- Refuse a wrong number of parameters. -/
def check (a : Arity) (params : List String) : Outcome Unit :=
  match a.required, params, a.most with
  | some param, [], _ => .error (.arity (.missing a.function param))
  | _, _, some most =>
      if most < params.length then
        .error (.arity (.tooMany a.function a.least most params.length))
      else .ok ()
  | _, _, none => .ok ()

end Arity

end FormRules.Predicate
