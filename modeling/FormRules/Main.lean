import FormRules.CommandLine.Report
/-!
# The command line

The files that the arguments may name are read first; everything else is decided by
`CommandLine.run`.
-/
namespace FormRules.CommandLine

/-- What the file system has at a path. -/
def look (path : String) : IO (String × PathEntry) := do
  try
    return (path, .file (← IO.FS.readFile path))
  catch
    | .inappropriateType .. => return (path, .directory)
    | _ => return (path, .missing)

/-- What arguments may name as a path: themselves, or what follows an equals sign. -/
def candidates (args : List String) : List String :=
  args ++ args.filterMap fun arg => (splitOption arg).2

/-- The variables that settings are made from. -/
def environment : IO Environment := do
  let mut env := []
  for name in [Settings.levelVariable, Settings.eventVariable] do
    if let some text ← IO.getEnv name then env := (name, text) :: env
  return env

/-- What a crash is reported as. -/
def Crash.text : Crash → String
  | .failure _ => "Error: the command could not be carried out"
  | .yaml _ => "Error: the values are no YAML document"
  | .json => "Error: the values are no JSON text"
  | .halfPair => "Error: a text cannot be written"

end FormRules.CommandLine

open FormRules.CommandLine in
/-- Print a report and end with its status. -/
def main (args : List String) : IO UInt32 := do
  let known ← (candidates args).mapM look
  let folder : Folder := fun path => (known.lookup path).getD .missing
  let report := run (← environment) folder args
  IO.print report.out
  IO.eprint report.err
  match report.ending with
  | .exit status => return status.toUInt32
  | .misuse _ => return 2
  | .crash cause => IO.eprintln cause.text; return 1
