import FormRules.Registry
import FormRules.Rule.Message
import FormRules.Rule.Parser
/-!
# Compiled rules

A rule string is compiled once: its rules must be known to the chosen registry and their
parameters acceptable.  A compiled chain evaluates all of its rules on a value, in order; the first
one that does not pass decides the result, and only the message of that rule is looked up.
-/
namespace FormRules

/-- Compiled rules and the registry they are looked up in. -/
structure Chain where
  rules : List Rule
  shelf : Shelf
deriving Inhabited

/-- A call of a rule's predicate: the label it is reported under, the value and the parameters. -/
structure RuleCall where
  rule : Rule
  label : Option String
  value : Value

namespace Chain

/-- Check every rule against a registry, in order. -/
def checkAll (registry : Registry) : List Rule → Outcome Unit
  | [] => .ok ()
  | r :: rest => do
      registry.checkParams r.name r.params
      checkAll registry rest

/-- Compile a rule string for one of the registries. -/
def compile (registries : Registries) (shelf : Shelf) (rules : String) : Outcome Chain := do
  let rules ← (Rule.parse rules).mapError .configuration
  checkAll (registries.get shelf) rules
  return ⟨rules, shelf⟩

/-- The result of a rule from that of its predicate; an inverted rule passes if the predicate's
result does not count as true. -/
def invert (r : Rule) (result : Value) : Value :=
  if r.inverse then .bool !result.truthy else result

/-- Evaluate one rule: the call that is made, if the rule is known, and its result. -/
def evaluate (registry : Registry) (value : Value) (r : Rule) : List RuleCall × Outcome Value :=
  match registry.get r.name with
  | .error f => ([], .error f)
  | .ok registration =>
      ([⟨r, registration.predicate.label, value⟩],
        (registration.predicate.apply value r.params).map (invert r))

/-- Evaluate rules in order, given the result of those before; `own` and `fallback` are the
sources of messages. -/
def runFrom (registry : Registry) (own fallback value : Value) :
    Value → List Rule → List RuleCall × Outcome Value
  | result, [] => ([], .ok result)
  | result, r :: rest =>
      match evaluate registry value r with
      | (calls, .error f) => (calls, .error f)
      | (calls, .ok this) =>
          let result :=
            if result.isTrue && !this.isTrue then resolveMessage own fallback r.name else result
          let (later, outcome) := runFrom registry own fallback value result rest
          (calls ++ later, outcome)

/-- Evaluate a chain on a value. -/
def run (registries : Registries) (own fallback value : Value) (c : Chain) :
    List RuleCall × Outcome Value :=
  runFrom (registries.get c.shelf) own fallback value (.bool true) c.rules

/-- The rule string of a chain. -/
def rulesText (c : Chain) : String := Rule.renderAll c.rules

/-- A chain by the name of its field and its rules. -/
def shown (name : Value) (c : Chain) : String :=
  "CompiledRules(" ++ name.shown ++ ", " ++ Text.quote c.rulesText ++ ")"

end Chain

end FormRules
