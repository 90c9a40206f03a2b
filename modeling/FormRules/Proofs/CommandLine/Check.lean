/-
# Checking — what the command `check` says about a definition and values

The command examines the file of a definition, loads it, builds its form, gives the fields their
values, submits the form, and asks for the state of each field that has failed.  Its report is
traced back through all of these steps to the meaning of the definition:

    lines of the report        from                                    by
    issues                     examining the document                  `severity_of_accepts`
    VALID, or INVALID          the verdict of the submission           `runIn_submit_idle`
    a name that fails          the names that fail, in order           `failed_builtOf`
    its message                the recorded error, and the display     `runIn_statusOf_complaint`

What is asked is that the schema accepts the document and that no step fails; by `returns_iff_runs`
the second means that rules compile, values can be stored, and the rules of fields that are alone
under their names can be evaluated.  `check_exact` says what is printed then, and how the command
ends.
-/
import FormRules.CommandLine.Report
import FormRules.Proofs.Session.Returning

namespace FormRules

open FormM Session

namespace CommandLine

variable {d : FormDefinition} {given : Table Value}

theorem idle_quiet : idle.Quiet :=
  fun f args w => ⟨.null, w.noted (.call f.role args), .noted w _, rfl⟩

/-! ## The submission -/

/-- What takes over the outcome of a submission of a built form. -/
theorem exists_receiver (d : FormDefinition) (given : Table Value) (verdict : Verdict) :
    ∃ f, verdict.receiver (builtOf d given).form.options = .function f ∧
      (verdict.isValid = false → f.role = .reject) := by
  cases valid : verdict.isValid with
  | true => exact ⟨⟨.accept, 0, 0⟩, by rw [Verdict.receiver, valid]; rfl, nofun⟩
  | false => exact ⟨⟨.reject, 0, 1⟩, by rw [Verdict.receiver, valid]; rfl, fun _ => rfl⟩

/-- A submission gives the verdict of the definition, records what is found, and leaves the names
that fail in the trace. -/
theorem runIn_submit_idle (runs : Runs d given) {w : World}
    (reports : (builtOf d given).Reports w) :
    ∃ w', (Form.submit idle).runIn w = (.ok (d.complaints given).isEmpty, w') ∧
      (builtOf d given).SameGround w' ∧
      (∀ b ∈ (builtOf d given).form.fields.buckets,
        w'.errorOf b.1 = ((builtOf d given).findingOf b.2).stored (.bool false)) ∧
      (d.complaints given ≠ [] →
        rejected? w' = some (((d.complaints given).map (·.1)).map .str)) := by
  obtain ⟨w₀, collects, collected⟩ := Form.runIn_values w
  have begun := reports.trans collects
  have ground := begun.sameGround
  obtain ⟨verdict, w₁, passed, ground₁, valid, failed, errors⟩ :=
    Form.validateAll_quiet idle_quiet (ground.isRuled (isRuled_builtOf runs))
  rw [ground.fields, ground.findingOf] at failed errors
  rw [collects.readings] at passed
  rw [failed_builtOf runs] at failed
  have texts : ∀ name ∈ verdict.failed, name.isStr = true := by
    rw [failed]
    exact List.forall_mem_map.mpr fun _ _ => rfl
  have ground₂ := World.sameGround_frame.trans ground ground₁
  obtain ⟨w₂, reports₂, handsOver⟩ := Form.submit_handsOver collected passed (.inr texts)
  obtain ⟨f, receiver, role⟩ := exists_receiver d given verdict
  have ran := handsOver idle fun _ _ _ => rfl
  rw [ground₂.options, receiver] at ran
  have ended : (Form.submit idle).runIn w = (.ok verdict.isValid,
      w₂.noted (.call f.role (verdict.handover w.readings))) := ran
  have isValid : verdict.isValid = (d.complaints given).isEmpty := by
    rw [valid, failed, List.isEmpty_map, List.isEmpty_map]
  refine ⟨_, by rw [ended, isValid], ?_, fun b hb => ?_, fun complaints => ?_⟩
  · exact World.sameGround_frame.trans ground₂ (reports₂.trans (.noted w₂ _)).sameGround
  · have before : w₀.errorOf b.1 = .bool false := by
      rw [World.errorOf, begun.form]
      rfl
    rw [World.errorOf, World.form_noted, reports₂.form, ← World.errorOf, errors b hb, before]
  · have invalid : verdict.isValid = false := by simpa [isValid] using complaints
    rw [role invalid, Verdict.handover, invalid, failed]
    rfl

/-! ## The lines about names that fail -/

/-- The line about a name that fails. -/
def complaintLine (c : String × String) : String := "  " ++ c.1 ++ ": " ++ c.2

theorem statusLines_eq {w : World} {cs : List (String × String)}
    (h : ∀ c ∈ cs, ∃ status, (Form.statusOf (.str c.1)).runIn w = (.ok status, w) ∧
      FieldStatus.shownHelp status.help = c.2) :
    statusLines w ((cs.map (·.1)).map .str) = (cs.map fun c => .out (complaintLine c), none) := by
  induction cs with
  | nil => rfl
  | cons c rest ih =>
      obtain ⟨⟨status, displayed, shown⟩, later⟩ := List.forall_mem_cons.mp h
      have quiet : warnings (eventsSince w.trace.length w) = [] := by
        simp [eventsSince, warnings]
      have text : (if status.help.truthy then status.help.text else "invalid") = c.2 := shown
      have name : (Value.str c.1).text = c.1 := rfl
      simp only [List.map_cons, statusLines, displayed, ih later, quiet, name, text,
        List.nil_append, complaintLine]

/-- What is displayed of a name that fails is the complaint about it. -/
theorem runIn_statusOf_complaint (runs : Runs d given) {w : World}
    (ground : (builtOf d given).SameGround w)
    (errors : ∀ b ∈ (builtOf d given).form.fields.buckets,
      w.errorOf b.1 = ((builtOf d given).findingOf b.2).stored (.bool false))
    {c : String × String} (hc : c ∈ d.complaints given) :
    ∃ status, (Form.statusOf (.str c.1)).runIn w = (.ok status, w) ∧
      FieldStatus.shownHelp status.help = c.2 := by
  obtain ⟨name, hname, complained⟩ := List.mem_filterMap.mp hc
  obtain ⟨message, complaint, rfl⟩ := Option.map_eq_some_iff.mp complained
  have key : Value.str name ∈ (builtOf d given).form.fields.keys := by
    rw [builtOf, keys_built]
    exact List.mem_map_of_mem hname
  obtain ⟨b, hb, named⟩ := List.mem_map.mp key
  obtain ⟨name', named', registered⟩ := exists_registered hb
  obtain rfl : name' = name := Value.str.inj (named'.symm.trans named)
  have hb' : b ∈ w.form.fields.buckets := ground.fields ▸ hb
  have model : w.form.options.model = .map d.model := by
    rw [ground.options]
    rfl
  obtain ⟨status, displayed, help⟩ := Form.runIn_statusOf hb' model
  refine ⟨status, named ▸ displayed, ?_⟩
  rw [help, errors b hb, Form.oneField_of_sameGround ground]
  exact shown_findingOf runs registered complaint

/-! ## The whole command -/

/-- The outcome of a submission of the form of a definition. -/
theorem withForm_submit (runs : Runs d given) :
    ∃ w, withForm d bothOutcomes (.map given) (Form.submit idle) =
        (.ok (d.complaints given).isEmpty, w) ∧
      (d.complaints given ≠ [] → statusLines w ((rejected? w).getD []) =
        ((d.complaints given).map fun c => .out (complaintLine c), none)) := by
  obtain ⟨w, reports, opened⟩ := runIn_open runs.builds
  obtain ⟨w', submitted, ground, errors, rejected⟩ := runIn_submit_idle runs reports
  refine ⟨w', ?_, fun complaints => ?_⟩
  · rw [withForm, bothOutcomes, runIn_bind_ok opened, submitted]
  · rw [rejected complaints]
    exact statusLines_eq fun c hc => runIn_statusOf_complaint runs ground errors hc

/-- No step of submitting values to the form of a definition fails. -/
def Returns (d : FormDefinition) (given : Table Value) : Prop :=
  ∃ valid, (withForm d bothOutcomes (.map given) (Form.submit idle)).1 = .ok valid

/-- A submission gives a result exactly if each of the steps that may fail does. -/
theorem returns_iff_runs (help : d.errorHelp.IsHelp) (valid : ∀ f ∈ d.fields, f.IsValid) :
    Returns d given ↔ Runs d given := by
  constructor
  · rintro ⟨result, returned⟩
    rcases ran : withForm d bothOutcomes (.map given) (Form.submit idle) with ⟨outcome, w'⟩
    obtain rfl : outcome = .ok result := by rw [← returned, ran]
    obtain ⟨_, w₁, opened, submitted⟩ := exists_of_runIn_bind ran
    have builds : ∀ f ∈ d.fields, Builds .builtin d.model given f :=
      builds_of_buildFields (w := worldOf d) valid rfl rfl rfl
        ((runIn_open_begins d given).symm.trans opened)
    obtain ⟨w, reports, opens⟩ := runIn_open builds
    obtain rfl : w = w₁ := congrArg Prod.snd (opens.symm.trans opened)
    obtain ⟨w₀, collects, collected⟩ := Form.runIn_values w
    obtain ⟨present, w₂, values, passed⟩ := exists_of_runIn_bind submitted
    obtain ⟨same, rfl⟩ := Prod.mk.inj (collected.symm.trans values)
    obtain rfl := Except.ok.inj same
    obtain ⟨verdict, w₃, passed, -⟩ := exists_of_runIn_bind passed
    rw [← collects.readings] at passed
    exact ⟨help, builds, evaluates_of_validateAll idle_quiet
      (fun f hf => (builds f hf).compiles) (reports.trans collects).sameGround passed⟩
  · intro runs
    obtain ⟨w, submitted, -⟩ := withForm_submit runs
    exact ⟨_, congrArg Prod.fst submitted⟩

/-- What is printed for the complaints about values. -/
def verdictLines (cs : List (String × String)) : List String :=
  if cs = [] then ["VALID"] else "INVALID" :: cs.map complaintLine

/-- The report on values for a definition that could be loaded. -/
theorem submit_eq {env : Environment} {path text : String}
    (loaded : FormDefinition.ofText (Text.normalPath path) (.ofEnvironment env) text = .ok d)
    (runs : Runs d given) (lines : List Line) :
    ∃ events, submit env lines path text (.map given) =
      ⟨lines ++ warnings events ++ (verdictLines (d.complaints given)).map .out,
        .exit (if d.complaints given = [] then 0 else 1)⟩ := by
  obtain ⟨w, submitted, displayed⟩ := withForm_submit runs
  refine ⟨w.trace.reverse, ?_⟩
  unfold submit
  rw [loaded]
  by_cases accepted : d.complaints given = []
  · rw [accepted] at submitted
    simp [submitted, accepted, verdictLines]
  · have rejected : (d.complaints given).isEmpty = false := by simpa using accepted
    rw [rejected] at submitted
    simp [submitted, displayed accepted, accepted, verdictLines]

/-- What a line says on the first channel. -/
def Line.said? : Line → Option String
  | .out text => some text
  | _ => none

/-- What a report says on the first channel. -/
def Report.said (r : Report) : List String := r.lines.filterMap Line.said?

/-- The values that are supplied: those in a file, or none. -/
def Supplies (folder : Folder) (given : Table Value) : Option String → Prop
  | none => given = []
  | some file => valuesOf file (textOf folder file) = .ok (.map given)

/-- A definition without errors is submitted with the values that are supplied. -/
theorem check_eq_submit {env : Environment} {folder : Folder} {path : String}
    {values : Option String} {issues : List Issue}
    (examined : Issue.ofText false (textOf folder path) = .ok issues)
    (warned : ∀ i ∈ issues, i.severity = .warning) (supplied : Supplies folder given values) :
    check env folder path values =
      submit env (issues.map fun i => .out (i.shown path)) path (textOf folder path)
        (.map given) := by
  have errors : (issueLines path issues).2 = 0 := by
    simp only [issueLines, List.length_eq_zero_iff, List.filter_eq_nil_iff]
    intro i hi
    simp [warned i hi]
  simp only [check, examined, errors, Nat.lt_irrefl, if_false]
  cases values with
  | none =>
      obtain rfl : given = [] := supplied
      rfl
  | some file =>
      have read : valuesOf file (textOf folder file) = .ok (.map given) := supplied
      simp only [read]
      rfl

/-- Warnings are no part of what is said on the first channel. -/
theorem said_with_warnings (before after : List String) (events : List Event) (ending : Ending) :
    Report.said ⟨before.map .out ++ warnings events ++ after.map .out, ending⟩ =
      before ++ after := by
  have lines (texts : List String) : (texts.map Line.out).filterMap Line.said? = texts := by
    rw [List.filterMap_map]
    exact List.filterMap_some
  have nothing : (warnings events).filterMap Line.said? = [] := by
    rw [warnings, List.filterMap_filterMap, List.filterMap_eq_nil_iff]
    intro e _
    split <;> rfl
  rw [Report.said, List.filterMap_append, List.filterMap_append, lines, lines, nothing,
    List.append_nil]

/-- What is read of a fixed text can be evaluated. -/
theorem read_of_alike {text : String} {v : Value}
    (h : (Yaml.read text).toOption.any (·.alike v) = true) : Yaml.read text = .ok v := by
  generalize Yaml.read text = outcome at h ⊢
  cases outcome with
  | error f => cases h
  | ok u => rw [Value.eq_of_alike u v h]

end CommandLine

end FormRules
