import FormRules.Text.Split
/-!
# Rules and rule strings

A rule names a predicate, may be inverted by a leading exclamation mark, and may carry parameters
behind colons; a rule string is a list of rules between commas.

    rules = rule ("," rule)*
    rule  = ["!"] name (":" param)*
-/
namespace FormRules

/-- A rule of a rule string. -/
structure Rule where
  name : String
  inverse : Bool
  params : List String
deriving DecidableEq, Repr, Inhabited

namespace Rule

def ruleSeparator : Char := ','

def paramSeparator : Char := ':'

def inversion : Char := '!'

/-- A rule as it is written. -/
def renderChars (r : Rule) : List Char :=
  let name := if r.inverse then inversion :: r.name.toList else r.name.toList
  Text.join paramSeparator (name :: r.params.map String.toList)

/-- A rule as it is written. -/
def render (r : Rule) : String := String.ofList r.renderChars

/-- Rules as they are written in one string. -/
def renderAll (rules : List Rule) : String :=
  String.ofList (Text.join ruleSeparator (rules.map renderChars))

end Rule

end FormRules
