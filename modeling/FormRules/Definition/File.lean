import FormRules.Definition.Basic
import FormRules.Definition.Issue
import FormRules.Yaml.Document
/-!
# Definitions in files

A file holds a definition as a document.  A text that is no document is an issue when the file is
examined, and a fault when a form is to be made of it; a scalar that denotes no value is a failure
either way.
-/
namespace FormRules

/-- A definition from the text of a file. -/
def FormDefinition.ofText (path : String) (settings : Settings) (text : String) :
    Outcome FormDefinition :=
  match Yaml.read text with
  | .ok document => FormDefinition.ofDocument path settings document
  | .error (.content failure) => .error failure
  | .error _ => misconfigured (.unreadable path)

namespace Issue

/-- The issue of a file whose text is no document. -/
def unreadable : Issue := ⟨"", "YAML parse error", .error⟩

/-- The issue of a file without content. -/
def blank : Issue := ⟨"", "File is empty or contains only whitespace", .error⟩

/-- The issues of a file that holds a document.  If it is strict, warnings count as errors. -/
def ofFile (strict : Bool) (document : Value) : Outcome (List Issue) :=
  match document with
  | .null => .ok [blank]
  | document => (ofDocument document).map fun issues =>
      if strict then issues.map strictly else issues

/-- The issues of a file with a text. -/
def ofText (strict : Bool) (text : String) : Outcome (List Issue) :=
  match Yaml.read text with
  | .ok document => ofFile strict document
  | .error (.content failure) => .error failure
  | .error _ => .ok [unreadable]

end Issue

end FormRules
