/-
# Validated definitions — what `check` does with a definition that `validate` accepts

The command `validate` examines the file of a definition, loads it, and builds its form without any
values.  If it succeeds, so do all steps of `check` up to the values (`exists_validated`), and how
`check` ends is decided by them:

    the definition takes the values     complaints             `check` ends
    yes                                 none                   with status 0, behind `VALID`
    yes                                 can be printed         with status 1, behind their lines
    yes                                 cannot be printed      with an exception
    no                                                         with an exception

`check_validated` is this table.  That a definition takes values is said by `FormDefinition.Takes`:
a value that a field of files cannot hold, or that a rule does not apply to, is not reported as one
that is not valid.
-/
import FormRules.Proofs.CommandLine.Check
import FormRules.Proofs.Session.Failing

namespace FormRules

open FormM Session

namespace CommandLine

/-! ## Reports that are delivered -/

namespace Report

variable {r : Report}

theorem delivered_of_isPrintable (h : ∀ l ∈ r.lines, l.isPrintable = true) : r.delivered = r :=
  if_pos (List.all_eq_true.mpr h)

theorem ending_delivered_of_not (h : ¬ ∀ l ∈ r.lines, l.isPrintable = true) :
    r.delivered.ending = .crash .halfPair := by
  rw [delivered, if_neg fun all => h (List.all_eq_true.mp all)]

/-- A report that is delivered with a status has been printed as a whole. -/
theorem of_ending_delivered {status : Nat} (h : r.delivered.ending = .exit status) :
    (∀ l ∈ r.lines, l.isPrintable = true) ∧ r.ending = .exit status := by
  by_cases printable : ∀ l ∈ r.lines, l.isPrintable = true
  · rw [delivered_of_isPrintable printable] at h
    exact ⟨printable, h⟩
  · rw [ending_delivered_of_not printable] at h
    cases h

end Report

theorem isPrintable_warnings (events : List Event) :
    ∀ l ∈ warnings events, l.isPrintable = true := by
  intro l hl
  obtain ⟨e, -, warned⟩ := List.mem_filterMap.mp hl
  split at warned
  · obtain rfl := Option.some.inj warned
    rfl
  · cases warned

/-! ## What `validate` has found -/

/-- What a definition is known to be if `validate` accepts it: its document satisfies the schema, all
that there is to be said about it can be printed, and its form can be built. -/
structure Validated (env : Environment) (path text : String) (document : Value)
    (issues : List Issue) : Prop where
  read : Yaml.read text = .ok document
  accepts : FormDefinition.schema.Accepts document
  examined : Issue.ofText false text = .ok issues
  isPrintable : ∀ i ∈ issues, (Line.out (i.shown path)).isPrintable = true
  builds : ∀ f ∈ (FormDefinition.inDocument (.ofEnvironment env) document).fields,
    Builds .builtin (FormDefinition.inDocument (.ofEnvironment env) document).model [] f

variable {env : Environment} {folder : Folder} {path text : String} {strict : Bool}

theorem ending_unusable_ne (lines : List Line) (before : String) (f : Failure) :
    (unusable lines before f).ending ≠ .exit 0 := by
  unfold unusable
  split
  · exact nofun
  · exact nofun

/-- The steps of `validate` that have not failed if it succeeds. -/
theorem exists_of_validate (h : (validate env path text strict).ending = .exit 0) :
    ∃ issues d w, Issue.ofText strict text = .ok issues ∧
      (∀ i ∈ issues, i.severity ≠ .error) ∧
      (∀ i ∈ issues, .out (i.shown path) ∈ (validate env path text strict).lines) ∧
      FormDefinition.ofText (Text.normalPath path) (.ofEnvironment env) text = .ok d ∧
      withForm d [(.accept, .script 0)] .null (pure ()) = (.ok (), w) := by
  unfold validate at h ⊢
  cases examined : Issue.ofText strict text with
  | error f =>
      rw [examined] at h
      cases h
  | ok issues =>
      simp only [examined] at h ⊢
      by_cases errors : 0 < (issueLines path issues).2
      · simp only [errors, if_true] at h
        cases h
      · simp only [errors, if_false] at h ⊢
        cases loaded : FormDefinition.ofText (Text.normalPath path) (.ofEnvironment env) text with
        | error f =>
            rw [loaded] at h
            exact absurd h (ending_unusable_ne _ _ _)
        | ok d =>
            simp only [loaded] at h ⊢
            rcases built : withForm d [(.accept, .script 0)] .null (pure ()) with ⟨f | _, w⟩
            · simp only [built] at h
              exact absurd h (ending_unusable_ne _ _ _)
            · refine ⟨issues, d, w, rfl, fun i hi severe => errors ?_, fun i hi => ?_, rfl, built⟩
              · exact List.length_pos_of_mem (List.mem_filter.mpr ⟨hi, decide_eq_true severe⟩)
              · exact List.mem_append_left _ (List.mem_append_left _ (List.mem_map_of_mem hi))

/-- If no step fails and no errors are found, `validate` says so. -/
theorem validate_eq {issues : List Issue} {d : FormDefinition} {w : World}
    (examined : Issue.ofText strict text = .ok issues) (fine : ∀ i ∈ issues, i.severity ≠ .error)
    (loaded : FormDefinition.ofText (Text.normalPath path) (.ofEnvironment env) text = .ok d)
    (built : withForm d [(.accept, .script 0)] .null (pure ()) = (.ok (), w)) :
    validate env path text strict =
      ⟨(issues.map fun i => .out (i.shown path)) ++ warnings w.trace.reverse ++
        [.out ("Form '" ++ d.name.text ++ "' (" ++ toString d.fields.length ++ " fields)"),
          .out "Form definition is valid."], .exit 0⟩ := by
  have errors : (issueLines path issues).2 = 0 := by
    simp only [issueLines, List.length_eq_zero_iff, List.filter_eq_nil_iff]
    intro i hi
    simp [fine i hi]
  simp only [validate, examined, errors, Nat.lt_irrefl, if_false, loaded, built]
  rfl

/-- **What `validate` accepts** can be loaded, and built without values. -/
theorem exists_validated
    (h : ((Command.validate path strict).run env folder).delivered.ending = .exit 0) :
    ∃ document issues, Validated env path (textOf folder path) document issues := by
  obtain ⟨printable, ended⟩ := Report.of_ending_delivered h
  obtain ⟨issues, d, w, examined, fine, among, loaded, ran⟩ := exists_of_validate ended
  cases read : Yaml.read (textOf folder path) with
  | error f =>
      rw [Issue.ofText, read] at examined
      cases f with
      | content failure => cases examined
      | _ =>
          obtain rfl := Except.ok.inj examined
          exact absurd rfl (fine _ List.mem_cons_self)
  | ok document =>
      rw [FormDefinition.issuesOf_of_read read] at examined
      obtain ⟨accepts, examined⟩ := FormDefinition.accepts_of_ofFile examined fine
      obtain rfl := Except.ok.inj
        ((FormDefinition.ofText_of_accepts accepts read _ _).symm.trans loaded)
      obtain ⟨_, w₁, opened, -⟩ := exists_of_runIn_bind ran
      rw [runIn_open_accepting] at opened
      refine ⟨document, issues, read, accepts, ?_, fun i hi => printable _ (among i hi), ?_⟩
      · rwa [FormDefinition.issuesOf_of_read read]
      · exact builds_of_buildFields (w := acceptingOf _)
          (fun f hf => FormDefinition.isValid_of_mem_fieldsIn accepts hf) rfl rfl rfl opened

/-! ## Submitting values -/

variable {d : FormDefinition} {given : Table Value}

/-- A submission of the form of a definition never blames the configuration where the form has been
built before without values. -/
theorem blameless_withForm (help : d.errorHelp.IsHelp)
    (begins : ∀ f ∈ d.fields, Builds .builtin d.model [] f) :
    (withForm d bothOutcomes (.map given) (Form.submit idle)).1.Blameless := by
  unfold withForm bothOutcomes
  by_cases builds : ∀ f ∈ d.fields, Builds .builtin d.model given f
  · obtain ⟨w, reports, opened⟩ := runIn_open builds
    obtain ⟨w₀, collects, collected⟩ := Form.runIn_values w
    have begun := reports.trans collects
    rw [runIn_bind_ok opened]
    rcases passed : (Form.validateAll idle (.map w.readings)).runIn w₀ with ⟨f | verdict, w₁⟩
    · have blameless := blameless_validateAll idle_quiet (fun f hf => (builds f hf).compiles)
        begun.sameGround
      rw [collects.readings, passed] at blameless
      have failed := Form.submit_handsOverNothing_of_error collected passed idle fun _ _ _ => rfl
      rw [failed]
      exact blameless_error (blameless f rfl)
    · have runs : Runs d given := ⟨help, builds, evaluates_of_validateAll idle_quiet
        (fun f hf => (builds f hf).compiles) begun.sameGround (collects.readings ▸ passed)⟩
      obtain ⟨w', submitted, -⟩ := runIn_submit_idle runs reports
      rw [submitted]
      exact blameless_ok _
  · have blameless : ((buildFields (.map given) [] d.fields).runIn (worldOf d)).1.Blameless :=
      blameless_buildFields begins rfl
    rcases ran : (buildFields (.map given) [] d.fields).runIn (worldOf d) with ⟨f | _, w⟩
    · rw [ran] at blameless
      rw [runIn_bind_error ((runIn_open_begins d given).trans ran)]
      exact blameless_error (blameless f rfl)
    · exact absurd (builds_of_buildFields (w := worldOf d) (fun f hf => (begins f hf).valid) rfl rfl
        rfl ran) builds

/-- Values that a definition does not take end a submission with an exception. -/
theorem submit_of_not_takes {env : Environment} {path text : String}
    (loaded : FormDefinition.ofText (Text.normalPath path) (.ofEnvironment env) text = .ok d)
    (help : d.errorHelp.IsHelp) (begins : ∀ f ∈ d.fields, Builds .builtin d.model [] f)
    (refused : ¬ d.Takes given) (lines : List Line) :
    ∃ events kind, submit env lines path text (.map given) =
      ⟨lines ++ warnings events, .crash (.failure kind)⟩ := by
  have blameless : (withForm d bothOutcomes (.map given) (Form.submit idle)).1.Blameless :=
    blameless_withForm help begins
  rcases submitted : withForm d bothOutcomes (.map given) (Form.submit idle) with ⟨f | valid, w⟩
  · rw [submitted] at blameless
    have unusable : unusable (lines ++ warnings w.trace.reverse) "" f =
        ⟨lines ++ warnings w.trace.reverse, .crash (.failure f.kind)⟩ := by
      unfold CommandLine.unusable
      split
      · exact absurd ‹_› (blameless f rfl)
      · rfl
    exact ⟨w.trace.reverse, f.kind, by simp [submit, loaded, submitted, unusable]⟩
  · have returns : Returns d given := ⟨valid, by rw [submitted]⟩
    have runs := (returns_iff_runs help fun f hf => (begins f hf).valid).mp returns
    exact absurd ((runs_iff_takes begins help).mp runs) refused

/-- The values can be checked: the definition takes them, and what there is to complain about can be
printed. -/
structure Checkable (d : FormDefinition) (given : Table Value) : Prop where
  takes : d.Takes given
  isPrintable : ∀ c ∈ d.complaints given, (Line.out (complaintLine c)).isPrintable = true

theorem isPrintable_verdictLines_iff {cs : List (String × String)} :
    (∀ l ∈ (verdictLines cs).map Line.out, l.isPrintable = true) ↔
      ∀ c ∈ cs, (Line.out (complaintLine c)).isPrintable = true := by
  have valid : (Line.out "VALID").isPrintable = true := by decide
  have invalid : (Line.out "INVALID").isPrintable = true := by decide
  rw [List.forall_mem_map]
  unfold verdictLines
  split
  · rename_i none
    simp [none, valid]
  · rw [List.forall_mem_cons, List.forall_mem_map]
    exact and_iff_right invalid

/-- **How `check` ends for a definition that `validate` accepts.**  If the definition takes the
values, and the complaints about them can be printed, the command prints the outcome: `VALID`, or
`INVALID` and one line for each name that fails.  Otherwise it ends with an exception. -/
theorem check_validated (env : Environment) (folder : Folder) (path file : String) (strict : Bool)
    {given : Table Value}
    (validated : ((Command.validate path strict).run env folder).delivered.ending = .exit 0)
    (supplied : valuesOf file (textOf folder file) = .ok (.map given)) :
    ∃ document issues, Yaml.read (textOf folder path) = .ok document ∧
      Issue.ofText false (textOf folder path) = .ok issues ∧
      let d := FormDefinition.inDocument (.ofEnvironment env) document
      let r := ((Command.check path (some file)).run env folder).delivered
      (Checkable d given →
        r.ending = .exit (if d.complaints given = [] then 0 else 1) ∧
        r.said = issues.map (·.shown path) ++ verdictLines (d.complaints given)) ∧
      (¬ Checkable d given → ∃ cause, r.ending = .crash cause) := by
  obtain ⟨document, issues, found⟩ := exists_validated validated
  refine ⟨document, issues, found.read, found.examined, ?_⟩
  intro d r
  have help : d.errorHelp.IsHelp := FormDefinition.isHelp_errorHelp found.accepts
  have loaded : FormDefinition.ofText (Text.normalPath path) (.ofEnvironment env)
      (textOf folder path) = .ok d := FormDefinition.ofText_of_accepts found.accepts found.read _ _
  have warned : ∀ i ∈ issues, i.severity = .warning := by
    have examined := found.examined
    rw [FormDefinition.issuesOf_of_read found.read] at examined
    exact FormDefinition.severity_of_accepts found.accepts examined
  have began : ∀ l ∈ issues.map fun i => Line.out (i.shown path), l.isPrintable = true :=
    List.forall_mem_map.mpr found.isPrintable
  have same : check env folder path (some file) = submit env
      (issues.map fun i => .out (i.shown path)) path (textOf folder path) (.map given) :=
    check_eq_submit found.examined warned supplied
  by_cases takes : d.Takes given
  · have runs : Runs d given := (runs_iff_takes found.builds help).mpr takes
    obtain ⟨events, report⟩ := submit_eq loaded runs (issues.map fun i => .out (i.shown path))
    rw [← same] at report
    have printable : (∀ l ∈ (check env folder path (some file)).lines, l.isPrintable = true) ↔
        Checkable d given := by
      rw [report, List.forall_mem_append, List.forall_mem_append, isPrintable_verdictLines_iff]
      exact ⟨fun h => ⟨takes, h.2⟩, fun h => ⟨⟨began, isPrintable_warnings events⟩, h.isPrintable⟩⟩
    constructor
    · intro checkable
      have whole : r = check env folder path (some file) :=
        Report.delivered_of_isPrintable (printable.mpr checkable)
      rw [whole, report]
      refine ⟨rfl, ?_⟩
      have said := said_with_warnings (issues.map (·.shown path))
        (verdictLines (d.complaints given)) events
        (.exit (if d.complaints given = [] then 0 else 1))
      rwa [List.map_map] at said
    · intro refused
      exact ⟨_, Report.ending_delivered_of_not fun all => refused (printable.mp all)⟩
  · obtain ⟨events, kind, report⟩ := submit_of_not_takes loaded help found.builds takes
      (issues.map fun i => .out (i.shown path))
    rw [← same] at report
    have printable : ∀ l ∈ (check env folder path (some file)).lines, l.isPrintable = true := by
      rw [report]
      exact List.forall_mem_append.mpr ⟨began, isPrintable_warnings events⟩
    have ended : r.ending = .crash (.failure kind) := by
      rw [show r = (check env folder path (some file)).delivered from rfl,
        Report.delivered_of_isPrintable printable, report]
    exact ⟨fun checkable => absurd checkable.takes takes, fun _ => ⟨_, ended⟩⟩

/-! ## A file without a name -/

/-- A form with one field, of files. -/
def avatarText : String :=
  "\x7bform: f, fields: [\x7bname: avatar, kind: file, rules: required\x7d]\x7d"

/-- The document in that text. -/
def avatarDocument : Value :=
  .map [(.str "form", .str "f"),
    (.str "fields", .list [
      .map [(.str "name", .str "avatar"), (.str "kind", .str "file"),
        (.str "rules", .str "required")]])]

/-- Values for it: a file is described by its type only. -/
def namelessText : String := "\x7bavatar: [\x7btype: png\x7d]\x7d"

/-- The value of the field in that text. -/
def namelessFiles : Value := .list [.map [(.str "type", .str "png")]]

/-- The files of the form and of the values. -/
def avatarFolder : Folder := fun path =>
  .file (if path = "values.yaml" then namelessText else avatarText)

theorem textOf_form : textOf avatarFolder "form.yaml" = avatarText := by
  have other : "form.yaml" ≠ "values.yaml" := by decide
  simp only [textOf, avatarFolder, if_neg other]

theorem textOf_values : textOf avatarFolder "values.yaml" = namelessText := by
  simp only [textOf, avatarFolder, if_pos]

theorem read_avatarText : Yaml.read avatarText = .ok avatarDocument :=
  read_of_alike (by decide +kernel)

theorem accepts_avatarDocument : FormDefinition.schema.Accepts avatarDocument := by
  unfold Schema.Accepts
  rfl

theorem supplies_namelessText : valuesOf "values.yaml" (textOf avatarFolder "values.yaml") =
    .ok (.map [(.str "avatar", namelessFiles)]) := by
  have read : Yaml.read namelessText = .ok (.map [(.str "avatar", namelessFiles)]) :=
    read_of_alike (by decide +kernel)
  have suffix : Text.pathSuffix "values.yaml" ≠ ".json" := by decide +kernel
  rw [textOf_values, valuesOf, valuesDocument, if_neg suffix, read]
  rfl

theorem validate_avatar :
    ((Command.validate "form.yaml" false).run [] avatarFolder).delivered.ending = .exit 0 := by
  have examined : Issue.ofText false avatarText = .ok [] := by
    rw [FormDefinition.issuesOf_of_read read_avatarText]
    exact (FormDefinition.ofFile_eq_ok_iff accepts_avatarDocument rfl).mpr ⟨rfl, [], rfl, rfl⟩
  have loaded : FormDefinition.ofText (Text.normalPath "form.yaml") (.ofEnvironment [])
      avatarText = .ok (FormDefinition.inDocument (.ofEnvironment []) avatarDocument) :=
    FormDefinition.ofText_of_accepts accepts_avatarDocument read_avatarText _ _
  have succeeds : (withForm (FormDefinition.inDocument (.ofEnvironment []) avatarDocument)
      [(.accept, .script 0)] .null (pure ())).1.toBool = true := by decide +kernel
  rcases built : withForm (FormDefinition.inDocument (.ofEnvironment []) avatarDocument)
      [(.accept, .script 0)] .null (pure ()) with ⟨f | _, w⟩
  · rw [built] at succeeds
    cases succeeds
  · have report := validate_eq examined (by simp) loaded built
    have whole : (Command.validate "form.yaml" false).run [] avatarFolder =
        validate [] "form.yaml" avatarText false := by rw [Command.run, textOf_form]
    have printable : ∀ l ∈ (validate [] "form.yaml" avatarText false).lines,
        l.isPrintable = true := by
      rw [report]
      refine List.forall_mem_append.mpr ⟨isPrintable_warnings _, ?_⟩
      decide +kernel
    rw [whole, Report.delivered_of_isPrintable printable, report]

/-- The file has no name, so `check` ends with an exception. -/
theorem check_avatar :
    (((Command.validate "form.yaml" false).run [] avatarFolder).delivered.ending = .exit 0 ∧
      valuesOf "values.yaml" (textOf avatarFolder "values.yaml") =
        .ok (.map [(.str "avatar", namelessFiles)])) ∧
      ∃ cause,
        ((Command.check "form.yaml" (some "values.yaml")).run [] avatarFolder).delivered.ending =
          .crash cause := by
  refine ⟨⟨validate_avatar, supplies_namelessText⟩, ?_⟩
  obtain ⟨document, issues, read, -, -, crashes⟩ := check_validated [] avatarFolder "form.yaml"
    "values.yaml" false validate_avatar supplies_namelessText
  rw [textOf_form, read_avatarText] at read
  obtain rfl := Except.ok.inj read
  refine crashes fun checkable => ?_
  have holds : namelessFiles.HoldsFiles :=
    checkable.takes.holds _ List.mem_cons_self namelessFiles rfl rfl
  rcases holds with ⟨⟨⟩⟩ | ⟨_, ⟨⟩, names⟩
  obtain ⟨⟨name, ⟨⟩⟩, -⟩ := names _ List.mem_cons_self _ rfl

end CommandLine

end FormRules
