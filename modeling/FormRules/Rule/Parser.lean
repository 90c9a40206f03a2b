import FormRules.Failure
import FormRules.Rule.Basic
/-!
# Reading rule strings

Every piece between commas must be a rule: a name that is not empty once a leading exclamation
mark is taken off, and parameters none of which is empty.  The first piece that is no rule decides
the fault.
-/
namespace FormRules.Rule

/-- The name of a rule without the mark of inversion, and whether the mark was there. -/
def splitInversion : List Char → Bool × List Char
  | '!' :: name => (true, name)
  | name => (false, name)

/-- Read one rule of the rule string `whole`. -/
def ofPiece (whole : String) (piece : List Char) : Except ConfigurationFault Rule :=
  match Text.split paramSeparator piece with
  | [] => .error (.emptyRuleName whole)
  | head :: params =>
      let (inverse, name) := splitInversion head
      if name.isEmpty then .error (.emptyRuleName whole)
      else if params.any List.isEmpty then .error (.emptyParam (String.ofList name) whole)
      else .ok ⟨String.ofList name, inverse, params.map String.ofList⟩

/-- Read a rule string. -/
def parse (text : String) : Except ConfigurationFault (List Rule) :=
  (Text.split ruleSeparator text.toList).mapM (ofPiece text)

end FormRules.Rule
