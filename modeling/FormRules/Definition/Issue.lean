import FormRules.Definition.FormSchema
import FormRules.Failure
import FormRules.Text.FilePath
import FormRules.Value.Collection
/-!
# Issues of form definitions

A document is held against the schema of form definitions, and names that several fields share
are warned about.  Issues with the schema come first, in the order of the texts of their paths.
-/
namespace FormRules

/-- How serious an issue is. -/
inductive Severity where
  | error
  | warning
deriving DecidableEq, Repr, Inhabited

namespace Severity

def text : Severity → String
  | error => "error"
  | warning => "warning"

def label : Severity → String
  | error => "ERROR"
  | warning => "WARNING"

end Severity

/-- Something to be said about a definition. -/
structure Issue where
  path : String
  message : String
  severity : Severity
deriving DecidableEq, Repr, Inhabited

namespace Issue

/-- The text of an issue of a file. -/
def shown (file : String) (i : Issue) : String :=
  "[" ++ i.severity.label ++ "] " ++ Text.normalPath file ++
    (if i.path.isEmpty then "" else " at " ++ i.path) ++ ": " ++ i.message

def ofFinding (f : Schema.Finding) : Issue := ⟨f.path.text, f.violation.message, .error⟩

/-- The issues of a document with the schema. -/
def ofSchema (document : Value) : List Issue :=
  ((FormDefinition.schema.findings document).map ofFinding).mergeSort fun a b => a.path ≤ b.path

/-- Everything that the schema has to say about a document can be written. -/
def writable (document : Value) : Outcome Unit :=
  if FormDefinition.schema.isWritable document then .ok () else .error .longInteger

/-- The names that come again among those of the entries, each once, in the order in which they
first come again.  An entry that is no mapping has no name. -/
def repeatedFrom (seen repeated : List Value) : List Value → Outcome (List Value)
  | [] => .ok repeated
  | entry :: rest =>
      let name := match entry.opened with
        | .map members => (Table.find? members (.str "name")).getD .null
        | _ => .null
      if !name.isKey then .error .typeMismatch
      else
        let again := seen.any (·.same name) && !repeated.any (·.same name)
        repeatedFrom (name :: seen) (if again then repeated ++ [name] else repeated) rest

/-- The names that several entries of a document share. -/
def repeatedNames (document : List (Value × Value)) : Outcome (List Value) := do
  let fields := (Table.find? document (.str "fields")).getD .null
  if !fields.truthy then return []
  repeatedFrom [] [] (← fields.members)

/-- The warning about a name that several fields share. -/
def sharedName (name : Value) : Issue :=
  ⟨"fields", "Multiple fields use the same name '" ++ name.text ++ "'", .warning⟩

/-- The issues of a document. -/
def ofDocument (document : Value) : Outcome (List Issue) := do
  writable document
  match document.opened with
  | .map members => return ofSchema document ++ (← repeatedNames members).map sharedName
  | _ => return ofSchema document

/-- Warnings count as errors. -/
def strictly (i : Issue) : Issue := { i with severity := .error }

end Issue

end FormRules
