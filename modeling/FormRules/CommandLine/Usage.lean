import FormRules.CommandLine.Folder
import FormRules.Text.Quoted
/-!
# Wrong use of the command line

A command line that cannot be carried out has one fault, which is reported with exit status 2.
-/
namespace FormRules.CommandLine

/-- What is wrong with a command line. -/
inductive UsageFault where
  | noCommand
  | missingCommand
  /-- A command that does not exist, and those whose names are close to it. -/
  | unknownCommand (name : String) (similar : List String)
  /-- An option that does not exist, and those whose names are close to it. -/
  | unknownOption (name : String) (similar : List String)
  | needsArgument (option : String)
  | takesNoValue (option : String)
  | missingPath
  | noFile (param path : String)
  | isDirectory (param path : String)
  /-- A path that cannot be looked up. -/
  | unusablePath (fault : PathFault)
  | notOneOf (param value : String) (choices : List String)
  | extraArguments (args : List String)
  | valuesNotMapping
deriving DecidableEq, Repr

/-- What the commands do, as it is listed. -/
def overview : String :=
  "Usage: cli [OPTIONS] COMMAND [ARGS]...\n\n" ++
  "  Form validation with rule strings.\n\n" ++
  "Options:\n" ++
  "  --help  Show this message and exit.\n\n" ++
  "Commands:\n" ++
  "  check     Submit values to a form definition and report the outcome.\n" ++
  "  rules     List rule names usable in rule strings.\n" ++
  "  validate  Validate a form definition YAML file."

/-- A fault of a parameter. -/
def invalidValue (param reason : String) : String :=
  "Invalid value for " ++ Text.quote param ++ ": " ++ reason

/-- What may have been meant instead. -/
def suggestion : List String → String
  | [] => ""
  | [name] => " Did you mean " ++ Text.quote name ++ "?"
  | names => " (Did you mean one of: " ++ ", ".intercalate (names.map Text.quote) ++ "?)"

namespace UsageFault

/-- The wording of a fault. -/
def message : UsageFault → String
  | .noCommand => overview
  | .missingCommand => "Missing command."
  | .unknownCommand name similar =>
      "No such command " ++ Text.quote name ++ "." ++ suggestion similar
  | .unknownOption name similar =>
      "No such option " ++ Text.quote name ++ "." ++ suggestion similar
  | .needsArgument option => "Option " ++ Text.quote option ++ " requires an argument."
  | .takesNoValue option => "Option " ++ Text.quote option ++ " does not take a value."
  | .missingPath => "Missing argument 'PATH'."
  | .noFile param path =>
      invalidValue param ("File " ++ Text.quote path ++ " does not exist.")
  | .isDirectory param path =>
      invalidValue param ("File " ++ Text.quote path ++ " is a directory.")
  | .unusablePath .endMark => "embedded null byte"
  | .unusablePath .halfPair => "surrogates not allowed"
  | .notOneOf param value choices =>
      invalidValue param
        (Text.quote value ++ " is not one of " ++ ", ".intercalate (choices.map Text.quote) ++ ".")
  | .extraArguments args =>
      "Got unexpected extra argument" ++ (if args.length = 1 then "" else "s") ++ " (" ++
        " ".intercalate args ++ ")"
  | .valuesNotMapping => "Invalid value for --values: values file must contain a mapping"

/-- What is printed for a fault. -/
def report (f : UsageFault) : String :=
  match f with
  | .noCommand => f.message
  | f => "Error: " ++ f.message

end UsageFault

end FormRules.CommandLine
