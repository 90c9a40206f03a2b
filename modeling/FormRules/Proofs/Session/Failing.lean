/-
# Failing — values that a definition cannot take

Where a form has been built of a definition without any values, its rules compile and its model can
be stored.  What is left to fail when values come is decided by the values (`FormDefinition.Takes`):

    step                      needs of a value that is given                       else
    filling a file field      nothing, or a collection whose mappings name files   no form
    filling another field     nothing                                              –
    evaluating a rule         that the rule applies to what the field holds        no verdict

`runs_iff_takes` is this table, and neither step ever blames the configuration when it fails
(`blameless_buildFields`, `blameless_validateAll`).
-/
import FormRules.Proofs.Rule.Evaluating
import FormRules.Proofs.Session.Returning

namespace FormRules

open FormM Treatment Session

/-! ## Values of file fields -/

/-- A mapping names a file: it has a name, and its size can be read, if it has one. -/
def NamesFile (entries : Table Value) : Prop :=
  (∃ name, entries.find? (.str "name") = some name) ∧
    ∃ size, sizeOfValue ((entries.find? (.str "size")).getD (.int 0)) = .ok size

/-- A value for a field of files: nothing, or a collection in which each mapping names a file. -/
def Value.HoldsFiles (v : Value) : Prop :=
  v = .null ∨ ∃ members, v.members? = some members ∧
    ∀ m ∈ members, ∀ entries, m.opened = .map entries → NamesFile entries

theorem exists_fileOfValue_iff {entries : Table Value} :
    (∃ f, fileOfValue (.map entries) = .ok f) ↔ NamesFile entries := by
  have opened : (Value.map entries).opened = .map entries := rfl
  simp only [fileOfValue, opened, NamesFile]
  cases entries.find? (.str "name") with
  | none => exact iff_of_false nofun nofun
  | some name =>
      simp only [bind_eq_ok_iff, pure_eq_ok_iff, Option.some.injEq, exists_eq', true_and]
      exact ⟨fun ⟨_, size, read, _⟩ => ⟨size, read⟩, fun ⟨size, read⟩ => ⟨_, size, read, rfl⟩⟩

/-- A member of the value of a file field, which is taken for a file if it is a mapping. -/
def fileFor (item : Value) : Outcome Value :=
  match item.opened with
  | .map entries => fileOfValue (.map entries)
  | _ => .ok item

theorem exists_fileFor_iff {item : Value} :
    (∃ f, fileFor item = .ok f) ↔ ∀ entries, item.opened = .map entries → NamesFile entries := by
  unfold fileFor
  split
  · rename_i entries opened
    rw [exists_fileOfValue_iff]
    refine ⟨fun names entries' opened' => ?_, fun all => all entries opened⟩
    cases opened.symm.trans opened'
    exact names
  · rename_i other
    exact iff_of_true ⟨item, rfl⟩ fun entries opened => absurd opened (other entries)

theorem valueFor_file {v : Value} (some : v ≠ .null) :
    valueFor .file v = do return .list (← (← v.members).mapM fileFor) := by
  cases v <;> first | rfl | exact absurd rfl some

/-- What is stored in a field that is given a value. -/
def FieldKind.held (kind : FieldKind) (v : Value) : Outcome Value := do
  kind.holding (← valueFor kind v)

theorem FieldKind.exists_held_file_iff {v : Value} :
    (∃ u, FieldKind.file.held v = .ok u) ↔ v.HoldsFiles := by
  by_cases nothing : v = .null
  · subst nothing
    exact iff_of_true ⟨_, rfl⟩ (.inl rfl)
  · have holds (files : List Value) : ∃ u, FieldKind.file.holding (.list files) = .ok u := by
      cases files with
      | nil => exact ⟨_, rfl⟩
      | cons f rest => exact ⟨_, rfl⟩
    have asked : (∃ u, FieldKind.file.held v = .ok u) ↔
        ∃ members, v.members = .ok members ∧ ∃ files, members.mapM fileFor = .ok files := by
      simp only [held, valueFor_file nothing, bind_eq_ok_iff, pure_eq_ok_iff]
      constructor
      · rintro ⟨_, _, ⟨members, found, files, read, -⟩, -⟩
        exact ⟨members, found, files, read⟩
      · rintro ⟨members, found, files, read⟩
        obtain ⟨u, held⟩ := holds files
        exact ⟨u, _, ⟨members, found, files, read, rfl⟩, held⟩
    rw [asked]
    simp only [Value.HoldsFiles, nothing, false_or, exists_mapM_eq_ok_iff, exists_fileFor_iff,
      Value.members]
    cases v.members? <;> simp

/-- Only the values of file fields have to be of some kind. -/
theorem FieldKind.exists_held_iff {kind : FieldKind} {v : Value} :
    (∃ u, kind.held v = .ok u) ↔ (kind = .file → v.HoldsFiles) := by
  cases kind with
  | file => simp [exists_held_file_iff]
  | text | checkbox | other => exact iff_of_true ⟨_, rfl⟩ nofun

/-! ## What a definition takes -/

variable {d : FormDefinition} {model given : Table Value}

namespace FieldDefinition

variable {f : FieldDefinition}

theorem exists_effective_iff (initial : ∃ value, f.initial model = .ok value) :
    (∃ value, f.effective model given = .ok value) ↔
      ∀ v, given.find? f.name = some v → f.kind = .file → v.HoldsFiles := by
  unfold effective
  cases found : given.find? f.name with
  | none => exact iff_of_true initial nofun
  | some v =>
      have held : (∃ value, f.kind.held v = .ok value) ↔ (f.kind = .file → v.HoldsFiles) :=
        FieldKind.exists_held_iff
      exact held.trans ⟨fun holds _ same => Option.some.inj same ▸ holds, fun all => all v rfl⟩

theorem accepted_of_mem_ruleList (compiles : ∃ chain, f.chainIn .builtin = .ok chain) {r : Rule}
    (hr : r ∈ f.ruleList) : r.Accepted (Registries.builtin.get f.kind.shelf) := by
  obtain ⟨chain, compiled⟩ := compiles
  unfold chainIn at compiled
  split at compiled
  · rename_i text rules
    obtain ⟨c, built, -⟩ := map_eq_ok_iff.mp compiled
    obtain ⟨parsed, -, accepted⟩ := Chain.compile_eq_ok_iff.mp built
    rw [ruleList_of_str rules, parsed] at hr
    exact accepted r hr
  · rename_i other
    rw [ruleList_of_not_str other] at hr
    cases hr

end FieldDefinition

/-- Values that a definition takes: its fields of files can hold theirs, and the rules of each field
that is alone under its name apply to what it holds. -/
structure FormDefinition.Takes (d : FormDefinition) (given : Table Value) : Prop where
  holds : ∀ f ∈ d.fields, ∀ v, given.find? f.name = some v → f.kind = .file → v.HoldsFiles
  applies : ∀ f ∈ d.fields, named d.fields f.name.text = [f] → ∀ r ∈ f.ruleList,
    r.Applies (f.valueIn d.model given) f.kind.shelf

namespace Session

variable (begins : ∀ f ∈ d.fields, Builds .builtin d.model [] f)

include begins

theorem builds_iff :
    (∀ f ∈ d.fields, Builds .builtin d.model given f) ↔
      ∀ f ∈ d.fields, ∀ v, given.find? f.name = some v → f.kind = .file → v.HoldsFiles := by
  refine forall₂_congr fun f hf => ?_
  have begun := begins f hf
  rw [← FieldDefinition.exists_effective_iff begun.settles.initial]
  exact ⟨fun builds => builds.settles.effective,
    fun effective => ⟨begun.valid, begun.compiles, begun.settles.initial, effective⟩⟩

theorem evaluates_iff_applies :
    d.Evaluates given ↔ ∀ f ∈ d.fields, named d.fields f.name.text = [f] → ∀ r ∈ f.ruleList,
      r.Applies (f.valueIn d.model given) f.kind.shelf := by
  refine forall₂_congr fun f hf => imp_congr_right fun _ => forall₂_congr fun r hr => ?_
  exact Chain.evaluates_iff (FieldDefinition.accepted_of_mem_ruleList (begins f hf).compiles hr) _

/-- **Nothing fails exactly if the definition takes the values.** -/
theorem runs_iff_takes (help : d.errorHelp.IsHelp) : Runs d given ↔ d.Takes given := by
  constructor
  · intro runs
    exact ⟨(builds_iff begins).mp runs.builds, (evaluates_iff_applies begins).mp runs.evaluates⟩
  · intro takes
    exact ⟨help, (builds_iff begins).mpr takes.holds,
      (evaluates_iff_applies begins).mpr takes.applies⟩

end Session

/-! ## Failures -/

theorem blameless_sizeOfValue (v : Value) : (sizeOfValue v).Blameless := by
  cases v with
  | int n => exact blameless_ok _
  | bool b => exact blameless_ok _
  | float x => exact blameless_bind (FileSize.blameless_toInteger x) fun n => blameless_ok _
  | bytes bs =>
      refine blameless_bind ?_ fun n => blameless_ok _
      unfold readBytes
      dsimp only
      split
      · exact blameless_error nofun
      · exact blameless_numeral
  | str s => exact blameless_bind blameless_numeral fun n => blameless_ok _
  | _ => exact blameless_error nofun

theorem blameless_fileFor (item : Value) : (fileFor item).Blameless := by
  unfold fileFor
  split
  · rename_i entries _
    have opened : (Value.map entries).opened = .map entries := rfl
    simp only [fileOfValue, opened]
    cases Table.find? entries (.str "name") with
    | none => exact blameless_error (by decide)
    | some name => exact blameless_bind (blameless_sizeOfValue _) fun size => blameless_ok _
  · exact blameless_ok item

namespace FieldKind

theorem blameless_holding (kind : FieldKind) (v : Value) : (kind.holding v).Blameless := by
  unfold holding
  split
  · exact blameless_ok _
  · split
    · exact blameless_map _ v.blameless_members
    · exact blameless_ok _
  · exact blameless_ok v
  · exact blameless_ok v

theorem blameless_held (kind : FieldKind) (v : Value) : (kind.held v).Blameless := by
  refine blameless_bind ?_ kind.blameless_holding
  unfold valueFor
  split
  · exact blameless_ok _
  · exact blameless_bind v.blameless_members fun members =>
      blameless_bind (blameless_mapM blameless_fileFor members) fun files => blameless_ok _
  · exact blameless_ok v

end FieldKind

theorem FieldDefinition.blameless_effective {f : FieldDefinition}
    (initial : ∃ value, f.initial model = .ok value) : (f.effective model given).Blameless := by
  unfold effective
  split
  · exact f.kind.blameless_held _
  · obtain ⟨value, initial⟩ := initial
    rw [initial]
    exact blameless_ok value

namespace Session

variable {w w' : World} {call : Caller}

/-- **Building never blames the configuration** where it has been done before without values. -/
theorem blameless_buildFields {ds : List FieldDefinition}
    (begins : ∀ f ∈ ds, Builds w.registries model [] f)
    (hmodel : w.form.options.model = .map model) :
    ((buildFields (.map given) [] ds).runIn w).1.Blameless := by
  induction ds generalizing w with
  | nil => exact blameless_ok ()
  | cons f rest ih =>
      obtain ⟨here, later⟩ := List.forall_mem_cons.mp begins
      have hname := here.valid.isKey_name
      have hfull := here.valid.truthy_name
      obtain ⟨chain, hchain⟩ := here.compiles
      obtain ⟨value, hvalue⟩ := here.settles.initial
      cases effective : f.effective model given with
      | ok held =>
          obtain ⟨w₂, reports, onward⟩ := runIn_buildFields_cons hname hfull hchain hmodel
            ⟨⟨value, hvalue⟩, held, effective⟩ rest
          have registries : w₂.registries = w.registries := reports.registries
          rw [onward]
          refine ih (by rwa [registries]) ?_
          rw [reports.form]
          exact hmodel
      | error e =>
          -- The field is registered, and then cannot be given its value.
          obtain ⟨w₁, reports, registered⟩ := runIn_registerField hname hfull hchain hmodel hvalue
          have field₁ : w₁.field w.objects.length = f.object value := by
            rw [reports.field]
            exact w.field_adding _
          have gave := runIn_giveValue given hname field₁
          have blameless : (f.effective model given).Blameless :=
            FieldDefinition.blameless_effective here.settles.initial
          rw [effective] at blameless
          unfold FieldDefinition.effective at effective
          cases found : given.find? f.name with
          | none =>
              rw [found] at effective
              cases hvalue.symm.trans effective
          | some v =>
              rw [found] at gave effective
              simp only [effective, storing] at gave
              rw [runIn_buildFields_begins hname, runIn_bind_ok registered, runIn_bind_error gave]
              exact blameless_error (blameless e rfl)

/-- A registration whose rules could not be evaluated is that of a field with such a rule. -/
theorem exists_evaluate_of_raised
    (compiles : ∀ f ∈ d.fields, ∃ chain, f.chainIn .builtin = .ok chain)
    (ground : (builtOf d given).SameGround w) {t : Treatment}
    (holds : t.Holds call (.map w.readings)) (ground₁ : w.SameGround t.before)
    (hb : t.registration ∈ (builtOf d given).form.fields.buckets) {e : Failure}
    (raised : t.finding = .raised e) :
    ∃ f ∈ d.fields, ∃ r ∈ f.ruleList,
      (Chain.evaluate (Registries.builtin.get f.kind.shelf) (f.valueIn d.model given) r).2 =
        .error e := by
  cases holds with
  | shared => cases raised
  | checked => cases raised
  | @raised name value entry chain _ w₁ w₂ first asked broken =>
      obtain rfl := Finding.raised.inj raised
      have hb : (name, [entry]) ∈ (builtOf d given).form.fields.buckets := hb
      have ground₁ : (builtOf d given).SameGround w₁ := World.sameGround_frame.trans ground ground₁
      obtain ⟨_, _, registered⟩ := exists_registered hb
      cases registered with
      | several entries_ne => exact absurd rfl entries_ne
      | @one _ f only field chained =>
          obtain ⟨hf, -⟩ := mem_fields_of_only only
          have decided := firstCheck?_builtOf ground₁ field entry.chain
          have held : value = f.valueIn d.model given :=
            Except.ok.inj (asked.symm.trans (entry_readings_builtOf ground field hb))
          obtain ⟨_, -, evaluated⟩ := Form.runIn_runChain entry.field chain value w₁
          obtain ⟨r, hr, failed⟩ :=
            Chain.exists_evaluate_of_run (congrArg Prod.fst (evaluated.symm.trans broken))
          rw [ground₁.registries, held] at failed
          rcases FieldDefinition.chain?_cases (compiles f hf) with ⟨none, -⟩ | some
          · rw [chained, none] at first decided
            cases first.symm.trans decided
          · rw [chained, some] at first decided
            cases first.symm.trans decided
            exact ⟨f, hf, r, hr, failed⟩

/-- Where a pass over the form of a definition is broken off, a rule of a field could not be
evaluated on what the field holds. -/
theorem exists_evaluate_of_broken (hcall : call.Quiet)
    (compiles : ∀ f ∈ d.fields, ∃ chain, f.chainIn .builtin = .ok chain)
    (ground : (builtOf d given).SameGround w) {e : Failure}
    (h : (Form.validateAll call (.map w.readings)).runIn w = (.error e, w')) :
    ∃ f ∈ d.fields, ∃ r ∈ f.ruleList,
      (Chain.evaluate (Registries.builtin.get f.kind.shelf) (f.valueIn d.model given) r).2 =
        .error e := by
  have plain := ground.isPlain (isPlain_builtOf d given)
  have mapping : (Value.map w.readings).IsMapping := ⟨w.readings, rfl⟩
  obtain ⟨ts, outcome, w₁, ran, linked, held, accounts⟩ :=
    Form.validateAll_treats hcall.benign mapping plain.decisive plain.wholeOverride
  cases outcome with
  | ok failed => cases congrArg Prod.fst (ran.symm.trans h)
  | error e' =>
      obtain rfl : e' = e := Except.error.inj (congrArg Prod.fst (ran.symm.trans h))
      obtain ⟨earlier, last, rfl, raised, -⟩ := accounts.raised
      have ht : last ∈ earlier ++ [last] := by simp
      have hb : last.registration ∈ (builtOf d given).form.fields.buckets :=
        ground.fields ▸ accounts.begun.subset (List.mem_map_of_mem ht)
      exact exists_evaluate_of_raised compiles ground (held last ht)
        ((linked.sameGround hcall held).1 last ht) hb raised

/-- **A pass never blames the configuration.** -/
theorem blameless_validateAll (hcall : call.Quiet)
    (compiles : ∀ f ∈ d.fields, ∃ chain, f.chainIn .builtin = .ok chain)
    (ground : (builtOf d given).SameGround w) :
    ((Form.validateAll call (.map w.readings)).runIn w).1.Blameless := by
  intro e failed
  rcases ran : (Form.validateAll call (.map w.readings)).runIn w with ⟨outcome, w'⟩
  obtain rfl : outcome = .error e := by rw [← failed, ran]
  obtain ⟨f, hf, r, hr, evaluated⟩ := exists_evaluate_of_broken hcall compiles ground ran
  exact Chain.blameless_evaluate (FieldDefinition.accepted_of_mem_ruleList (compiles f hf) hr) _ e
    evaluated

end Session

end FormRules
