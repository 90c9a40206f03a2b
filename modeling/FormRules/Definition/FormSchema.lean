import FormRules.Predicate.Formats
import FormRules.Schema.Basic
/-!
# The schema of form definitions
-/
namespace FormRules.FormDefinition

open Predicate Pattern

/-- The pattern of rule strings as it is shown. -/
def ruleStringSource : String := "^!?[^,:!]+(:[^,:]+)*(,!?[^,:!]+(:[^,:]+)*)*$"

/-- A rule: an optional mark, a name without separators and marks, and parameters. -/
def rulePattern : Pattern :=
  let nameCharacter := .char (.set true [one ',', one ':', one '!'] .exact)
  let paramCharacter := .char (.set true [one ',', one ':'] .exact)
  inOrder
    [optional (literal '!'), oneOrMore nameCharacter,
      many (.cat (literal ':') (oneOrMore paramCharacter))]

/-- Rules between commas, from the start to the end of the last line. -/
def ruleStringPattern : Pattern :=
  inOrder
    [.anchor .textStart, rulePattern, many (.cat (literal ',') rulePattern), .anchor .lastLineEnd]

/-- A text that is not empty. -/
def textSchema : Schema := .keywords [.type .string, .leastLength 1]

/-- Messages: one text, or texts by rule. -/
def helpSchema : Schema :=
  .keywords
    [.someOf
      [.keywords [.type .string],
        .keywords [.type .object, .others (.keywords [.type .string])]]]

/-- The names of the kinds of fields. -/
def kindNames : List String := ["text", "checkbox", "file", "other"]

/-- A field. -/
def fieldSchema : Schema :=
  .keywords
    [.type .object, .required ["name"],
      .closed ["name", "kind", "rules", "errorHelp", "validateOnEvent"],
      .members
        [("name", textSchema), ("kind", .keywords [.oneOf kindNames]),
          ("rules", .keywords [.type .string, .matching ruleStringSource ruleStringPattern]),
          ("errorHelp", helpSchema), ("validateOnEvent", textSchema)]]

/-- A form. -/
def schema : Schema :=
  .keywords
    [.type .object, .required ["form", "fields"],
      .closed ["form", "validateOnEvent", "errorHelp", "model", "fields"],
      .members
        [("form", textSchema), ("validateOnEvent", textSchema), ("errorHelp", helpSchema),
          ("model", .keywords [.type .object]),
          ("fields", .keywords [.type .array, .items fieldSchema])]]

end FormRules.FormDefinition
