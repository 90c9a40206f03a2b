import FormRules.Pattern.Matching
import FormRules.Text.Split
import FormRules.Value.Table
import FormRules.Value.Text
/-!
# Schemas and their findings

A schema is a list of keywords, each of which states a condition on values of some type and says
nothing about others.  Findings are listed in the order of the keywords, those of members and
items where the keyword for them stands.

    type t              the value has the type
    required names      a mapping has these members
    closed names        a mapping has no other members
    members             the members of a mapping, if there, satisfy their schemas
    others s            all members of a mapping satisfy a schema
    leastLength n       a text has at least so many characters
    matching p          a text holds a match of the pattern
    oneOf texts         the value is one of these
    items s             the items of a list satisfy a schema
    someOf schemas      the value satisfies one of the schemas
-/
namespace FormRules

namespace Schema

/-- Types of values. -/
inductive Kind where
  | object
  | array
  | string
deriving DecidableEq, Repr

namespace Kind

def text : Kind → String
  | object => "object"
  | array => "array"
  | string => "string"

/-- Whether a value has a type. -/
def holds (k : Kind) (v : Value) : Bool :=
  match k, v.opened with
  | object, .map _ => true
  | array, .list _ => true
  | string, .str _ => true
  | _, _ => false

end Kind

/-- A step from a value to a part of it. -/
inductive Step where
  | member (name : String)
  | item (index : Nat)
deriving DecidableEq, Repr

/-- Where a part of a document is. -/
abbrev Path := List Step

/-- The text of a path: members behind slashes, items in brackets. -/
def Path.text : Path → String
  | [] => ""
  | .member name :: rest => name ++ tail rest
  | .item index :: rest => "[" ++ toString index ++ "]" ++ tail rest
where
  tail : Path → String
    | [] => ""
    | .member name :: rest => "/" ++ name ++ tail rest
    | .item index :: rest => "[" ++ toString index ++ "]" ++ tail rest

/-- What a value may be found to violate. -/
inductive Violation where
  | type (value : Value) (kind : Kind)
  | required (name : String)
  | unexpected (names : List Value)
  | empty (value : Value)
  | tooShort (value : Value)
  | mismatch (value : Value) (pattern : String)
  | notOneOf (value : Value) (options : List String)
  | noneOf (value : Value)

namespace Violation

/-- The wording of a violation. -/
def message : Violation → String
  | type v k => v.shown ++ " is not of type " ++ Text.quote k.text
  | required name => Text.quote name ++ " is a required property"
  | unexpected names =>
      let ordered := names.mergeSort fun a b => a.text ≤ b.text
      "Additional properties are not allowed (" ++ ", ".intercalate (ordered.map Value.shown) ++
        (if names.length = 1 then " was" else " were") ++ " unexpected)"
  | empty v => v.shown ++ " should be non-empty"
  | tooShort v => v.shown ++ " is too short"
  | mismatch v pattern => v.shown ++ " does not match " ++ Text.quote pattern
  | notOneOf v options => v.shown ++ " is not one of " ++ Text.quoteList options
  | noneOf v => v.shown ++ " is not valid under any of the given schemas"

end Violation

/-- A violation and where it was found. -/
structure Finding where
  path : Path
  violation : Violation

/-- A finding in a part of a value, seen from the value. -/
def Finding.below (step : Step) (f : Finding) : Finding := { f with path := step :: f.path }

end Schema

mutual

/-- A schema. -/
inductive Schema where
  | keywords (ks : List Keyword)

/-- A keyword of a schema. -/
inductive Keyword where
  | type (kind : Schema.Kind)
  | required (names : List String)
  | closed (names : List String)
  | members (schemas : List (String × Schema))
  | others (schema : Schema)
  | leastLength (n : Nat)
  | matching (source : String) (pattern : Pattern)
  | oneOf (options : List String)
  | items (schema : Schema)
  | someOf (schemas : List Schema)

end

namespace Schema

/-- A finding about a value itself. -/
def here (v : Violation) : List Finding := [⟨[], v⟩]

/-- The members of a mapping that are not among some names. -/
def unknownMembers (names : List String) (entries : List (Value × Value)) : List Value :=
  (entries.map (·.1)).filter fun key => !names.any fun n => key.same (.str n)

mutual

/-- The findings of a schema about a value. -/
def findings : Schema → Value → List Finding
  | .keywords ks, v => findingsOfAll ks v

/-- The findings of keywords, in their order. -/
def findingsOfAll : List Keyword → Value → List Finding
  | [], _ => []
  | k :: ks, v => findingsOf k v ++ findingsOfAll ks v

/-- The findings of one keyword. -/
def findingsOf : Keyword → Value → List Finding
  | .type kind, v => if kind.holds v then [] else here (.type v kind)
  | .required names, v => match v.opened with
    | .map entries =>
        (names.filter fun n => !Table.contains entries (.str n)).flatMap fun n =>
          here (.required n)
    | _ => []
  | .closed names, v => match v.opened with
    | .map entries => match unknownMembers names entries with
      | [] => []
      | unknown => here (.unexpected unknown)
    | _ => []
  | .members schemas, v => match v.opened with
    | .map entries => findingsOfMembers schemas entries
    | _ => []
  | .others schema, v => match v.opened with
    | .map entries =>
        entries.flatMap fun e => (findings schema e.2).map (Finding.below (.member e.1.text))
    | _ => []
  | .leastLength n, .str s =>
      if s.toList.length < n then here (if n = 1 then .empty (.str s) else .tooShort (.str s))
      else []
  | .matching source pattern, .str s =>
      if pattern.search s.toList then [] else here (.mismatch (.str s) source)
  | .oneOf options, v =>
      if options.any fun o => v.same (.str o) then [] else here (.notOneOf v options)
  | .items schema, v => match v.opened with
    | .list xs => xs.zipIdx.flatMap fun e => (findings schema e.1).map (Finding.below (.item e.2))
    | _ => []
  | .someOf schemas, v => if satisfiesSome schemas v then [] else here (.noneOf v)
  | _, _ => []

/-- The findings about the members of a mapping that have schemas. -/
def findingsOfMembers : List (String × Schema) → List (Value × Value) → List Finding
  | [], _ => []
  | (name, schema) :: rest, entries =>
      (match Table.find? entries (.str name) with
        | some v => (findings schema v).map (Finding.below (.member name))
        | none => []) ++ findingsOfMembers rest entries

/-- Whether a value satisfies one of several schemas. -/
def satisfiesSome : List Schema → Value → Bool
  | [], _ => false
  | s :: rest, v => (findings s v).isEmpty || satisfiesSome rest v

end

/-! ## Findings that can be written -/

/-- Whether a violation shows only values that have a text. -/
def Violation.isWritable : Violation → Bool
  | .type v _ | .notOneOf v _ | .noneOf v => !v.holdsLongInteger
  | .unexpected names => !names.any Value.holdsLongInteger
  | _ => true

/-- Whether the findings about a value itself can be written. -/
def areWritable (fs : List Finding) : Bool := fs.all fun f => f.violation.isWritable

mutual

/-- Whether everything that a schema has to say about a value can be written.  What one of several
schemas says counts even if another one is satisfied. -/
def isWritable : Schema → Value → Bool
  | .keywords ks, v => allWritable ks v

def allWritable : List Keyword → Value → Bool
  | [], _ => true
  | k :: ks, v => keywordWritable k v && allWritable ks v

def keywordWritable : Keyword → Value → Bool
  | .members schemas, v => match v.opened with
    | .map entries => membersWritable schemas entries
    | _ => true
  | .others schema, v => match v.opened with
    | .map entries => entries.all fun e =>
        isWritable schema e.2 && (!e.1.holdsLongInteger || (findings schema e.2).isEmpty)
    | _ => true
  | .items schema, v => match v.opened with
    | .list xs => xs.all fun x => isWritable schema x
    | _ => true
  | .someOf schemas, v =>
      someWritable schemas v && (satisfiesSome schemas v || !v.holdsLongInteger)
  | .type kind, v => areWritable (findingsOf (.type kind) v)
  | .required names, v => areWritable (findingsOf (.required names) v)
  | .closed names, v => areWritable (findingsOf (.closed names) v)
  | .leastLength n, v => areWritable (findingsOf (.leastLength n) v)
  | .matching source pattern, v => areWritable (findingsOf (.matching source pattern) v)
  | .oneOf options, v => areWritable (findingsOf (.oneOf options) v)

def membersWritable : List (String × Schema) → List (Value × Value) → Bool
  | [], _ => true
  | (name, schema) :: rest, entries =>
      (match Table.find? entries (.str name) with
        | some v => isWritable schema v
        | none => true) && membersWritable rest entries

/-- Schemas are tried up to the first one that is satisfied. -/
def someWritable : List Schema → Value → Bool
  | [], _ => true
  | s :: rest, v => isWritable s v && ((findings s v).isEmpty || someWritable rest v)

end

end Schema

end FormRules
