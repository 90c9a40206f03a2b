import FormRules.CommandLine.Usage
import FormRules.Registry
import FormRules.Text.Similar
/-!
# Commands from arguments

Arguments are options, which start with a hyphen, and others.  The first argument that is no option
names the command, and what follows belongs to it.  Unknown options come to light first; then
options are held against the files and choices there are, then the path, and last of all arguments
that nothing has asked for.
-/
namespace FormRules.CommandLine

/-- An option by name; some are followed by an argument. -/
structure OptionForm where
  name : String
  takesArgument : Bool
deriving DecidableEq, Repr

/-- Arguments sorted into options, with what they are given, and others. -/
structure Sorted where
  options : List (String × Option String)
  others : List String
deriving DecidableEq, Repr

/-- Whether an argument is to be an option. -/
def isOption (arg : String) : Bool := arg.startsWith "-" && arg != "-"

/-- The name of an option and the value behind an equals sign, if there is one. -/
def splitOption (arg : String) : String × Option String :=
  let s := arg.toList
  let name := String.ofList (s.takeWhile (· != '='))
  (name, if s.contains '=' then some (String.ofList ((s.dropWhile (· != '=')).drop 1)) else none)

/-- The names that are close to one that does not exist, in alphabetical order. -/
def similarNames (names : List String) (name : String) : List String :=
  (names.filter fun n => Text.areSimilar n.toList name.toList).mergeSort (· ≤ ·)

/-- The fault of an option that does not exist.  Behind a single hyphen each letter is a name. -/
def unknownOption (forms : List OptionForm) (arg : String) : UsageFault :=
  let name := (splitOption arg).1
  if arg.startsWith "--" then .unknownOption name (similarNames (forms.map (·.name)) name)
  else .unknownOption (String.ofList (arg.toList.take 2)) []

/-- Sort arguments, up to the first one that is no option if nothing may come in between. -/
def sortArguments (forms : List OptionForm) (between : Bool) :
    List String → Except UsageFault Sorted
  | [] => .ok ⟨[], []⟩
  | arg :: rest =>
      let withOption (name : String) (value : Option String) (s : Sorted) : Sorted :=
        ⟨(name, value) :: s.options, s.others⟩
      if arg = "--" then .ok ⟨[], rest⟩
      else if !isOption arg then
        if between then
          (sortArguments forms between rest).map fun s => ⟨s.options, arg :: s.others⟩
        else .ok ⟨[], arg :: rest⟩
      else
        let (name, value) := splitOption arg
        match forms.find? (·.name == name) with
        | none => .error (unknownOption forms arg)
        | some form =>
            if !form.takesArgument then
              if value.isSome then .error (.takesNoValue name)
              else (sortArguments forms between rest).map (withOption name none)
            else if value.isSome then
              (sortArguments forms between rest).map (withOption name value)
            else match rest with
              | [] => .error (.needsArgument name)
              | v :: rest => (sortArguments forms between rest).map (withOption name (some v))

namespace Sorted

/-- Whether an option is given. -/
def has (s : Sorted) (name : String) : Bool := s.options.any (·.1 == name)

/-- What an option is given; the last one counts. -/
def value? (s : Sorted) (name : String) : Option String :=
  (s.options.reverse.lookup name).join

end Sorted

/-- What the tools can be asked for. -/
inductive Command where
  | help (text : String)
  | check (path : String) (values : Option String)
  | validate (path : String) (strict : Bool)
  | rules (shelf : Option Shelf)
deriving DecidableEq, Repr

/-- The option that asks for help. -/
def helpOption : OptionForm := ⟨"--help", false⟩

/-- A file that must be there. -/
def existingFile (folder : Folder) (param path : String) : Except UsageFault String :=
  match folder path with
  | .missing => .error (.noFile param path)
  | .directory => .error (.isDirectory param path)
  | .unusable fault => .error (.unusablePath fault)
  | .file _ => .ok path

/-- The first of the other arguments as the path of a file that must be there. -/
def pathArgument (folder : Folder) (s : Sorted) : Except UsageFault String :=
  match s.others with
  | [] => .error .missingPath
  | path :: _ => existingFile folder "PATH" path

/-- Nothing more than some arguments. -/
def noMore (rest : List String) : Except UsageFault Unit :=
  if rest.isEmpty then .ok () else .error (.extraArguments rest)

def checkHelp : String :=
  "Usage: cli check [OPTIONS] PATH\n\n" ++
  "  Submit values to a form definition and report the outcome.\n\n" ++
  "Options:\n" ++
  "  --values FILE  YAML or JSON file with field values.\n" ++
  "  --help         Show this message and exit."

def validateHelp : String :=
  "Usage: cli validate [OPTIONS] PATH\n\n" ++
  "  Validate a form definition YAML file.\n\n" ++
  "Options:\n" ++
  "  --strict  Treat warnings as errors.\n" ++
  "  --help    Show this message and exit."

def rulesHelp : String :=
  "Usage: cli rules [OPTIONS]\n\n" ++
  "  List rule names usable in rule strings.\n\n" ++
  "Options:\n" ++
  "  --kind [standard|file]  Only list one registry.\n" ++
  "  --help                  Show this message and exit."

namespace Command

def checkOf (folder : Folder) (args : List String) : Except UsageFault Command := do
  let s ← sortArguments [⟨"--values", true⟩, helpOption] true args
  if s.has "--help" then return .help checkHelp
  let values ← (s.value? "--values").mapM (existingFile folder "--values")
  let path ← pathArgument folder s
  noMore (s.others.drop 1)
  return .check path values

def validateOf (folder : Folder) (args : List String) : Except UsageFault Command := do
  let s ← sortArguments [⟨"--strict", false⟩, helpOption] true args
  if s.has "--help" then return .help validateHelp
  let path ← pathArgument folder s
  noMore (s.others.drop 1)
  return .validate path (s.has "--strict")

/-- The names of the registries that can be listed. -/
def shelves : List (String × Shelf) := [("standard", .standard), ("file", .file)]

/-- A registry by name. -/
def shelfOf (name : String) : Except UsageFault Shelf :=
  match shelves.lookup name with
  | some shelf => .ok shelf
  | none => .error (.notOneOf "--kind" name (shelves.map (·.1)))

def rulesOf (args : List String) : Except UsageFault Command := do
  let s ← sortArguments [⟨"--kind", true⟩, helpOption] true args
  if s.has "--help" then return .help rulesHelp
  let shelf ← (s.value? "--kind").mapM shelfOf
  noMore s.others
  return .rules shelf

/-- The names of the commands. -/
def names : List String := ["check", "rules", "validate"]

/-- A command by name. -/
def named? (folder : Folder) (name : String) (args : List String) :
    Option (Except UsageFault Command) :=
  if name = "check" then some (checkOf folder args)
  else if name = "validate" then some (validateOf folder args)
  else if name = "rules" then some (rulesOf args)
  else none

/-- The command that arguments ask for. -/
def ofArguments (folder : Folder) (args : List String) : Except UsageFault Command := do
  if args.isEmpty then throw .noCommand
  let s ← sortArguments [helpOption] false args
  if s.has "--help" then return .help overview
  match s.others with
  | [] => throw .missingCommand
  | name :: rest =>
      match named? folder name rest with
      | some command => command
      | none =>
          -- Behind two hyphens alone an option can stand where the command should be.
          let again ← sortArguments [helpOption] false (if isOption name then name :: rest else [])
          if again.has "--help" then return .help overview
          throw (.unknownCommand name (similarNames names name))

end Command

end FormRules.CommandLine
