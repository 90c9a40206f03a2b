import FormRules.CommandLine.Arguments
import FormRules.CommandLine.Channel
import FormRules.Definition.File
import FormRules.Json.Content
import FormRules.Session.Opening
/-!
# Carrying out commands

What a command prints on its two channels and how it ends is a function of its arguments, of the
files and of the environment.  Forms are built and submitted with functions that do nothing; what
they were called with is found in the trace.
-/
namespace FormRules.CommandLine

/-- What a command cannot go on with. -/
inductive Crash where
  | failure (kind : Failure.Kind)
  | yaml (fault : Yaml.Fault)
  | json
  /-- Half of a pair stands where only characters can. -/
  | halfPair
deriving Inhabited

/-- How a command ends. -/
inductive Ending where
  | exit (status : Nat)
  | misuse (fault : UsageFault)
  | crash (cause : Crash)
deriving Inhabited

/-- The lines that a command prints, in order, and how it ends. -/
structure Report where
  lines : List Line
  ending : Ending
deriving Inhabited

namespace Report

/-- The report of a command that fails behind some lines. -/
def crashed (lines : List Line) (f : Failure) : Report := ⟨lines, .crash (.failure f.kind)⟩

/-- What comes of a report where it is printed: a line that cannot be printed ends it. -/
def delivered (r : Report) : Report :=
  if r.lines.all Line.isPrintable then r
  else ⟨r.lines.takeWhile Line.isPrintable, .crash .halfPair⟩

/-- The text on the first channel. -/
def out (r : Report) : String := outText r.lines

/-- The text on the second channel, where a wrong use is reported last. -/
def err (r : Report) : String :=
  match r.ending with
  | .misuse fault => errText (r.lines ++ [.err fault.report])
  | _ => errText r.lines

end Report

/-! ## Forms of definitions -/

/-- The warnings among events, in order. -/
def warnings (events : List Event) : List Line :=
  events.filterMap fun e => match e with
    | .log .warning message => some (.warning message)
    | _ => none

/-- What the last call of the reject function in a trace was given. -/
def rejected? (w : World) : Option (List Value) :=
  w.trace.findSome? fun e => match e with
    | .call .reject (.rejected failed _) => some failed
    | _ => none

/-- Functions that do nothing but leave a trace. -/
def idle : Caller := fun f args => do
  FormM.emit (.call f.role args)
  return .null

/-- Functions for the outcomes of a submission. -/
def bothOutcomes : Session.Given := [(.accept, .script 0), (.reject, .script 0)]

/-- Run an operation on the form of a definition, with values for its fields. -/
def withForm {α : Type} (d : FormDefinition) (given : Session.Given) (values : Value)
    (operation : FormM α) : Outcome α × World :=
  let opened : FormM α := do
    Session.open (.definition d given [] values [])
    operation
  opened.runIn (Session.world .builtin)

/-- The lines about the fields that failed, with the warnings that come up, up to the first field
that cannot be displayed. -/
def statusLines : World → List Value → List Line × Option Failure
  | _, [] => ([], none)
  | w, name :: rest =>
      let (outcome, w') := (Form.statusOf name).runIn w
      let raised := warnings (Session.eventsSince w.trace.length w')
      match outcome with
      | .error f => (raised, some f)
      | .ok status =>
          let message := if status.help.truthy then status.help.text else "invalid"
          let (lines, failure) := statusLines w' rest
          (raised ++ .out ("  " ++ name.text ++ ": " ++ message) :: lines, failure)

/-! ## Commands -/

/-- The lines about issues, and the number of errors among them. -/
def issueLines (path : String) (issues : List Issue) : List Line × Nat :=
  (issues.map fun i => .out (i.shown path),
    (issues.filter (·.severity = .error)).length)

/-- How a definition that cannot be used is reported, in front of which `before` is printed. -/
def unusable (lines : List Line) (before : String) (f : Failure) : Report :=
  match f.kind with
  | .configuration =>
      ⟨lines ++ [.err (before ++ "Invalid form definition: " ++ f.message)], .exit 1⟩
  | _ => .crashed lines f

/-- Examine a definition, and build a form of it if it has no errors. -/
def validate (env : Environment) (path text : String) (strict : Bool) : Report :=
  match Issue.ofText strict text with
  | .error f => .crashed [] f
  | .ok issues =>
      let (lines, errors) := issueLines path issues
      if 0 < errors then
        ⟨lines ++ [.out ("\n" ++ toString errors ++ " schema error(s) found")], .exit 1⟩
      else
        match FormDefinition.ofText (Text.normalPath path) (.ofEnvironment env) text with
        | .error f => unusable lines "\n" f
        | .ok d =>
            let (outcome, w) := withForm d [(.accept, .script 0)] .null (pure ())
            let lines := lines ++ warnings w.trace.reverse
            match outcome with
            | .error f => unusable lines "\n" f
            | .ok () =>
                ⟨lines ++
                  [.out ("Form '" ++ d.name.text ++ "' (" ++ toString d.fields.length ++
                      " fields)"),
                    .out "Form definition is valid."], .exit 0⟩

/-- Why a file gives no values. -/
inductive ValuesFault where
  | crash (cause : Crash)
  | notMapping

/-- The document in a file of values, which is JSON if its name says so. -/
def valuesDocument (path text : String) : Except Crash Value :=
  if Text.pathSuffix path = ".json" then
    (Json.read text).mapError fun f => match f with
      | .content failure => .failure failure.kind
      | _ => .json
  else
    (Yaml.read text).mapError fun f => match f with
      | .content failure => .failure failure.kind
      | f => .yaml f

/-- The values in a file: a mapping, or nothing. -/
def valuesOf (path text : String) : Except ValuesFault Value :=
  match valuesDocument path text with
  | .error cause => .error (.crash cause)
  | .ok .null => .ok (.map [])
  | .ok v => match v.opened with
    | .map entries => .ok (.map entries)
    | _ => .error .notMapping

/-- The text of a file; there is none where there is no file. -/
def textOf (folder : Folder) (path : String) : String :=
  match folder path with
  | .file text => text
  | _ => ""

/-- Submit values to the form of a definition. -/
def submit (env : Environment) (lines : List Line) (path text : String) (values : Value) :
    Report :=
  match FormDefinition.ofText (Text.normalPath path) (.ofEnvironment env) text with
  | .error f => unusable lines "" f
  | .ok d =>
      let (outcome, w) := withForm d bothOutcomes values (Form.submit idle)
      let lines := lines ++ warnings w.trace.reverse
      match outcome with
      | .error f => unusable lines "" f
      | .ok true => ⟨lines ++ [.out "VALID"], .exit 0⟩
      | .ok false =>
          let (more, failure) := statusLines w ((rejected? w).getD [])
          let lines := lines ++ .out "INVALID" :: more
          match failure with
          | some f => .crashed lines f
          | none => ⟨lines, .exit 1⟩

/-- Submit the values of a file, if there is one, to the form of a definition without errors. -/
def check (env : Environment) (folder : Folder) (path : String) (values : Option String) :
    Report :=
  let text := textOf folder path
  match Issue.ofText false text with
  | .error f => .crashed [] f
  | .ok issues =>
      let (lines, errors) := issueLines path issues
      if 0 < errors then ⟨lines ++ [.err "Invalid form definition"], .exit 1⟩
      else match values with
        | none => submit env lines path text (.map [])
        | some file =>
            match valuesOf file (textOf folder file) with
            | .error (.crash cause) => ⟨lines, .crash cause⟩
            | .error .notMapping => ⟨lines, .misuse .valuesNotMapping⟩
            | .ok v => submit env lines path text v

/-- List the rules of one registry or of both. -/
def rules (shelf : Option Shelf) : Report :=
  let shelves := match shelf with
    | some s => [s]
    | none => [.standard, .file]
  let lines := shelves.flatMap fun s =>
    let r := Registries.builtin.get s
    (r.name ++ ":") :: r.names.map ("  " ++ ·)
  ⟨lines.map .out, .exit 0⟩

/-- Carry out a command. -/
def Command.run (env : Environment) (folder : Folder) : Command → Report
  | .help text => ⟨[.out text], .exit 0⟩
  | .check path values => CommandLine.check env folder path values
  | .validate path strict => CommandLine.validate env path (textOf folder path) strict
  | .rules shelf => CommandLine.rules shelf

/-- What arguments lead to. -/
def run (env : Environment) (folder : Folder) (args : List String) : Report :=
  match Command.ofArguments folder args with
  | .error (.unusablePath .endMark) => ⟨[], .crash (.failure .value)⟩
  | .error (.unusablePath .halfPair) => ⟨[], .crash .halfPair⟩
  | .error fault => ⟨[], .misuse fault⟩
  | .ok command => (command.run env folder).delivered

end FormRules.CommandLine
