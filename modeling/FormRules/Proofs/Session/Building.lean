/-
# Building — what a form that is built from a definition holds

Building a form registers one field for each entry of the definition, in order, and gives it its
value: the one that is given under its name, else that of the model, else what its kind holds from
the beginning (`FieldDefinition.effective`).  A field holds a value as its kind does:

    kind        holds from the beginning   holds of a value
    checkbox    `false`                    whether it counts as checked
    file        no files                   its members, if it counts as true, else no files
    other       nothing                    the value

For a field of files, mappings among the members of a value that is given are taken for files first
(`Session.valueFor`).

`runIn_buildFields` says that building does exactly this where no step fails, and `runIn_open` that
opening a form from a definition ends in such a world.
-/
import FormRules.Proofs.Definition.Valid
import FormRules.Proofs.Form.Registry
import FormRules.Proofs.Form.Client
import FormRules.Session.Opening

namespace FormRules

open FormM World

/-! ## Values of fields -/

namespace FieldKind

/-- What a field of a kind holds before it is given a value. -/
def blank : FieldKind → Value
  | .checkbox => .bool false
  | .file => .tuple []
  | .text | .other => .null

/-- What a field of a kind holds when it is given a value. -/
def holding (kind : FieldKind) (v : Value) : Outcome Value :=
  match kind with
  | .checkbox => .ok (.bool (checkedState v))
  | .file => if v.truthy then v.members.map .tuple else .ok (.tuple [])
  | .text | .other => .ok v

end FieldKind

namespace Field

/-- The field with another current value. -/
def withCurrent (f : Field) (v : Value) : Field :=
  match f.kind with
  | .checkbox => { f with checked := v }
  | .file => { f with files := v }
  | .text | .other => { f with value := v }

variable (f : Field) (v v' : Value)

@[simp] theorem name_withCurrent : (f.withCurrent v).name = f.name := by
  unfold withCurrent
  split <;> rfl

@[simp] theorem kind_withCurrent : (f.withCurrent v).kind = f.kind := by
  unfold withCurrent
  split <;> rfl

@[simp] theorem rules_withCurrent : (f.withCurrent v).rules = f.rules := by
  unfold withCurrent
  split <;> rfl

@[simp] theorem validator_withCurrent : (f.withCurrent v).validator = f.validator := by
  unfold withCurrent
  split <;> rfl

@[simp] theorem errorHelp_withCurrent : (f.withCurrent v).errorHelp = f.errorHelp := by
  unfold withCurrent
  split <;> rfl

@[simp] theorem current_withCurrent : (f.withCurrent v).current = v := by
  obtain ⟨_, kind, _⟩ := f
  cases kind <;> rfl

@[simp] theorem withCurrent_withCurrent : (f.withCurrent v).withCurrent v' = f.withCurrent v' := by
  obtain ⟨_, kind, _⟩ := f
  cases kind <;> rfl

/-- Storing a value changes the current value only. -/
theorem store_eq : f.store v = (f.kind.holding v).map f.withCurrent := by
  obtain ⟨_, kind, _⟩ := f
  cases kind with
  | file =>
      simp only [store, FieldKind.holding]
      split
      · cases v.members <;> rfl
      · rfl
  | _ => rfl

end Field

namespace FieldDefinition

variable (model given : Table Value)

/-- What the field of a definition holds when it has been registered. -/
def initial (d : FieldDefinition) : Outcome Value :=
  match model.find? d.name with
  | some v => d.kind.holding v
  | none => .ok d.kind.blank

/-- What the field of a definition holds in the end. -/
def effective (d : FieldDefinition) : Outcome Value :=
  match given.find? d.name with
  | some v => do d.kind.holding (← Session.valueFor d.kind v)
  | none => d.initial model

/-- The field can be given its values. -/
structure Settles (d : FieldDefinition) : Prop where
  initial : ∃ value, d.initial model = .ok value
  effective : ∃ value, d.effective model given = .ok value

/-- The value that the field holds in the end. -/
def valueIn (d : FieldDefinition) : Value := (d.effective model given).toOption.getD .null

/-- The field object of a definition, without a validator. -/
def object (d : FieldDefinition) (value : Value) : Field :=
  Field.withCurrent
    ⟨d.name, d.kind, d.rules, .value .null, d.errorHelp, d.validateOnEvent, .null, .bool false,
      .tuple []⟩ value

/-- The new field of a definition, with a validator. -/
def fresh (d : FieldDefinition) (validator : Hook) : Field :=
  ⟨d.name, d.kind, d.rules, validator, d.errorHelp, d.validateOnEvent, .null, .bool false,
    .tuple []⟩

/-- The rules of a field, compiled, if it has any. -/
def chainIn (registries : Registries) (d : FieldDefinition) : Outcome (Option Chain) :=
  match d.rules with
  | .str rules => (Chain.compile registries d.kind.shelf rules).map some
  | _ => .ok none

/-- The compiled rules that the field has. -/
def chain? (registries : Registries) (d : FieldDefinition) : Option Chain :=
  (d.chainIn registries).toOption.join

variable {model given} in
theorem Settles.effective_eq {d : FieldDefinition} (h : d.Settles model given) :
    d.effective model given = .ok (d.valueIn model given) := by
  obtain ⟨value, effective⟩ := h.effective
  rw [valueIn, effective]
  rfl

variable (d : FieldDefinition) (v : Value)

@[simp] theorem name_object : (d.object v).name = d.name := Field.name_withCurrent _ _

@[simp] theorem kind_object : (d.object v).kind = d.kind := Field.kind_withCurrent _ _

@[simp] theorem rules_object : (d.object v).rules = d.rules := Field.rules_withCurrent _ _

@[simp] theorem validator_object : (d.object v).validator = .value .null :=
  Field.validator_withCurrent _ _

@[simp] theorem errorHelp_object : (d.object v).errorHelp = d.errorHelp :=
  Field.errorHelp_withCurrent _ _

@[simp] theorem current_object : (d.object v).current = v := Field.current_withCurrent _ _

/-- A field that is given a value is one that had it from the beginning. -/
theorem store_object (v' : Value) :
    (d.object v).store v' = (d.kind.holding v').map d.object := by
  rw [Field.store_eq, kind_object]
  have again : (d.object v).withCurrent = d.object :=
    funext fun _ => Field.withCurrent_withCurrent ..
  rw [again]

theorem withCurrent_blank (validator : Hook) :
    (d.fresh validator).withCurrent d.kind.blank = d.fresh validator := by
  obtain ⟨_, kind, _⟩ := d
  cases kind <;> rfl

/-- Without a validator, that is the new field. -/
theorem object_blank : d.object d.kind.blank = d.fresh (.value .null) :=
  d.withCurrent_blank (.value .null)

end FieldDefinition

/-! ## Worlds in which fields are added -/

namespace World

/-- The world with one more field object. -/
def adding (w : World) (f : Field) : World := { w with objects := w.objects ++ [f] }

theorem field_adding (w : World) (f : Field) : (w.adding f).field w.objects.length = f := by
  simp [adding, field]

/-- The world with one more field object, and another number of functions. -/
def making (w : World) (f : Field) (n : Nat) : World :=
  { w with objects := w.objects ++ [f], functions := n }

theorem field_making (w : World) (f : Field) (n : Nat) :
    (w.making f n).field w.objects.length = f := by
  simp [making, field]

/-- A new field may as well have been changed before it was registered. -/
theorem setField_registering (w : World) (f f' : Field) (name : Value) (e : Entry) :
    ((w.adding f).registering name e).setField w.objects.length f' =
      (w.adding f').registering name e := by
  simp [adding, registering, World.changing, setField]

theorem Reports.setField {w w' : World} (id : FieldId) (f : Field) :
    w.Reports w' → (w.setField id f).Reports (w'.setField id f) := by
  rintro ⟨events, rfl⟩
  exact ⟨events, rfl⟩

theorem Reports.added {w w' : World} (f : Field) (name : Value) (e : Entry) :
    w.Reports w' → ((w.adding f).registering name e).Reports
      ((w'.adding f).registering name e) := by
  rintro ⟨events, rfl⟩
  exact ⟨events, rfl⟩

theorem Reports.objects {w w' : World} : w.Reports w' → w'.objects = w.objects := by
  rintro ⟨_, rfl⟩
  rfl

theorem Reports.registries {w w' : World} : w.Reports w' → w'.registries = w.registries := by
  rintro ⟨_, rfl⟩
  rfl

theorem Reports.field {w w' : World} : w.Reports w' → w'.field = w.field := by
  rintro ⟨_, rfl⟩
  rfl

theorem chainOf_eq_chainIn (w : World) {f : Field} {d : FieldDefinition} (rules : f.rules = d.rules)
    (kind : f.kind = d.kind) : w.chainOf f = d.chainIn w.registries := by
  unfold chainOf FieldDefinition.chainIn
  generalize f.rules = fieldRules at rules
  generalize f.kind = fieldKind at kind
  subst rules kind
  cases d.rules <;> rfl

end World

namespace Form

/-- Compiling depends on the registries only. -/
theorem runIn_compileRules (d : FieldDefinition) (v : Value) (w : World) :
    (compileRules (d.object v)).runIn w = (d.chainIn w.registries, w) := by
  rw [runIn_compileRules_eq, w.chainOf_eq_chainIn (d.rules_object v) (d.kind_object v)]

end Form

namespace Value

variable {entries : Table Value} {name v : Value}

theorem hasItem_map (hname : name.isKey = true) :
    (Value.map entries).hasItem name = .ok (Table.contains entries name) := by
  simp [hasItem, opened, hname]

theorem item_map (hname : name.isKey = true) (found : entries.find? name = some v) :
    (Value.map entries).item name = .ok v := by
  simp [item, opened, hname, found]

end Value

namespace Session

variable {d : FieldDefinition} {model given : Table Value} {chain : Option Chain} {w : World}

@[simp] theorem runIn_newField (f : Field) (w : World) :
    (newField f).runIn w = (.ok w.objects.length, w.adding f) := rfl

/-- What storing a value in a field comes to. -/
def storing (d : FieldDefinition) (id : FieldId) (w : World) : Outcome Value → Outcome Unit × World
  | .ok held => (.ok (), w.setField id (d.object held))
  | .error f => (.error f, w)

/-- A new field that has been added gets its value from the model, if the model has one. -/
theorem runIn_registerField_of_added {id : FieldId} {w₁ : World} (hname : d.name.isKey = true)
    (added : (Form.addField id).runIn w = (.ok (), w₁))
    (field₁ : w₁.field id = d.object d.kind.blank) (model₁ : w₁.form.options.model = .map model) :
    (Form.registerField id).runIn w = match model.find? d.name with
      | some v => storing d id w₁ (d.kind.holding v)
      | none => (.ok (), w₁) := by
  unfold Form.registerField
  rw [runIn_bind_ok added]
  cases found : model.find? d.name with
  | none => simp [runIn_bind, field₁, model₁, Value.hasItem_map hname, Table.contains, found]
  | some v =>
      have stored := d.store_object d.kind.blank v
      cases held : d.kind.holding v <;>
        simp [runIn_bind, field₁, model₁, Value.hasItem_map hname, Value.item_map hname found,
          Table.contains, found, stored, held, Except.map, storing]

/-- Adding a new field. -/
theorem exists_added_fresh (validator : Hook) (n : Nat) (hname : d.name.isKey = true)
    (hfull : d.name.truthy = true) (hchain : d.chainIn w.registries = .ok chain) :
    ∃ w₁, ((w.making (d.fresh validator) n).registering d.name
        ⟨w.objects.length, chain⟩).Reports w₁ ∧
      w₁.field w.objects.length = d.fresh validator ∧
      (Form.addField w.objects.length).runIn (w.making (d.fresh validator) n) = (.ok (), w₁) := by
  have chains : (w.making (d.fresh validator) n).chainOf (d.fresh validator) =
      d.chainIn w.registries := World.chainOf_eq_chainIn _ rfl rfl
  have compiled : (Form.compileRules (d.fresh validator)).runIn (w.making (d.fresh validator) n) =
      (.ok chain, w.making (d.fresh validator) n) := by
    rw [Form.runIn_compileRules_eq, chains, hchain]
  obtain ⟨w₁, reports, added⟩ :=
    Form.runIn_addField (w.field_making (d.fresh validator) n) hname hfull compiled
  refine ⟨w₁, reports, ?_, added⟩
  rw [reports.field]
  exact w.field_making _ n

theorem exists_added (hname : d.name.isKey = true) (hfull : d.name.truthy = true)
    (hchain : d.chainIn w.registries = .ok chain) :
    ∃ w₁, ((w.adding (d.object d.kind.blank)).registering d.name
        ⟨w.objects.length, chain⟩).Reports w₁ ∧
      w₁.field w.objects.length = d.object d.kind.blank ∧
      (Form.addField w.objects.length).runIn (w.adding (d.object d.kind.blank)) =
        (.ok (), w₁) := by
  rw [d.object_blank]
  exact exists_added_fresh (.value .null) w.functions hname hfull hchain

/-- Registering gives a new field its value from the model. -/
theorem runIn_registerField (hname : d.name.isKey = true) (hfull : d.name.truthy = true)
    (hchain : d.chainIn w.registries = .ok chain) (hmodel : w.form.options.model = .map model)
    {value : Value} (hvalue : d.initial model = .ok value) :
    ∃ w', ((w.adding (d.object value)).registering d.name ⟨w.objects.length, chain⟩).Reports w' ∧
      (Form.registerField w.objects.length).runIn (w.adding (d.object d.kind.blank)) =
        (.ok (), w') := by
  obtain ⟨w₁, reports, field₁, added⟩ := exists_added hname hfull hchain
  rw [runIn_registerField_of_added hname added field₁ (by rw [reports.form]; exact hmodel)]
  unfold FieldDefinition.initial at hvalue
  cases found : model.find? d.name with
  | none =>
      rw [found] at hvalue
      obtain rfl := Except.ok.inj hvalue
      exact ⟨w₁, reports, rfl⟩
  | some v =>
      rw [found] at hvalue
      refine ⟨_, setField_registering _ _ _ _ _ ▸ reports.setField _ _, ?_⟩
      simp only [hvalue, storing]

/-- Giving a registered field its value, if there is one for its name. -/
def giveValue (given : Table Value) (d : FieldDefinition) (id : FieldId) : FormM Unit := do
  if ← lift ((Value.map given).hasItem d.name) then
    let v ← lift (do valueFor d.kind (← (Value.map given).item d.name))
    setField id (← lift ((← field id).store v))

/-- Building makes a new field, which is registered and then given its value. -/
theorem runIn_buildFields_of_taken (given : Table Value) {validators : Table HookSource}
    {validator : Hook} {n : Nat} (hname : d.name.isKey = true)
    (taken : (takeHook (.validator d.name) ((validators.find? d.name).getD
      (.value .null))).runIn w = (.ok validator, { w with functions := n }))
    (rest : List FieldDefinition) :
    (buildFields (.map given) validators (d :: rest)).runIn w = (do
      Form.registerField w.objects.length
      giveValue given d w.objects.length
      buildFields (.map given) validators rest).runIn (w.making (d.fresh validator) n) := by
  have made (f : Field) : { w with functions := n }.adding f = w.making f n := rfl
  have begun : (buildFields (.map given) validators (d :: rest)).runIn w = (do
      Form.registerField w.objects.length
      if ← lift ((Value.map given).hasItem d.name) then
        let v ← lift (do valueFor d.kind (← (Value.map given).item d.name))
        setField w.objects.length (← lift ((← field w.objects.length).store v))
      buildFields (.map given) validators rest).runIn (w.making (d.fresh validator) n) := by
    simp [buildFields, hname, taken, FieldDefinition.fresh, runIn_bind, made]
  rw [begun, runIn_bind, runIn_bind, Value.hasItem_map hname]
  rcases (Form.registerField w.objects.length).runIn _ with ⟨f | _, w₁⟩
  · rfl
  · cases contained : Table.contains given d.name
    · simp [giveValue, Value.hasItem_map hname, contained, runIn_bind]
    · simp [giveValue, Value.hasItem_map hname, contained, runIn_bind]

/-- Where no validators are given, the new field has none. -/
theorem runIn_buildFields_begins (hname : d.name.isKey = true) (rest : List FieldDefinition) :
    (buildFields (.map given) [] (d :: rest)).runIn w = (do
      Form.registerField w.objects.length
      giveValue given d w.objects.length
      buildFields (.map given) [] rest).runIn (w.adding (d.object d.kind.blank)) := by
  rw [d.object_blank]
  exact runIn_buildFields_of_taken given hname rfl rest

/-- A field of the kind of a definition gets the value that is given for its name. -/
theorem runIn_giveValue_of_kind (given : Table Value) {id : FieldId} (hname : d.name.isKey = true)
    (kind : (w.field id).kind = d.kind) :
    (giveValue given d id).runIn w = match given.find? d.name with
      | some v => match (do d.kind.holding (← valueFor d.kind v) : Outcome Value) with
        | .ok held => (.ok (), w.setField id ((w.field id).withCurrent held))
        | .error f => (.error f, w)
      | none => (.ok (), w) := by
  cases found : given.find? d.name with
  | none => simp [giveValue, runIn_bind, Value.hasItem_map hname, Table.contains, found]
  | some v =>
      cases coerced : valueFor d.kind v with
      | error f =>
          simp [giveValue, runIn_bind, Value.hasItem_map hname, Value.item_map hname found,
            Table.contains, found, ok_bind, error_bind, coerced]
      | ok u =>
          have stored := (w.field id).store_eq u
          rw [kind] at stored
          cases held : d.kind.holding u <;>
            simp [giveValue, runIn_bind, Value.hasItem_map hname, Value.item_map hname found,
              Table.contains, found, ok_bind, coerced, stored, held, Except.map]

theorem runIn_giveValue (given : Table Value) {id : FieldId} {value : Value}
    (hname : d.name.isKey = true) (here : w.field id = d.object value) :
    (giveValue given d id).runIn w = match given.find? d.name with
      | some v => storing d id w (do d.kind.holding (← valueFor d.kind v))
      | none => (.ok (), w) := by
  have kind : (w.field id).kind = d.kind := by rw [here, d.kind_object]
  have again (held : Value) : (d.object value).withCurrent held = d.object held :=
    Field.withCurrent_withCurrent ..
  rw [runIn_giveValue_of_kind given hname kind, here]
  simp only [again]
  cases given.find? d.name with
  | none => rfl
  | some v =>
      dsimp only
      cases (do d.kind.holding (← valueFor d.kind v) : Outcome Value) <;> rfl

/-- Building takes one field after the other: it is registered, and given its value. -/
theorem runIn_buildFields_cons (hname : d.name.isKey = true) (hfull : d.name.truthy = true)
    (hchain : d.chainIn w.registries = .ok chain) (hmodel : w.form.options.model = .map model)
    (settles : d.Settles model given) (rest : List FieldDefinition) :
    ∃ w', ((w.adding (d.object (d.valueIn model given))).registering d.name
        ⟨w.objects.length, chain⟩).Reports w' ∧
      (buildFields (.map given) [] (d :: rest)).runIn w =
        (buildFields (.map given) [] rest).runIn w' := by
  have effective := settles.effective_eq
  obtain ⟨value, hvalue⟩ := settles.initial
  obtain ⟨w₁, reports, ran⟩ := runIn_registerField hname hfull hchain hmodel hvalue
  have field₁ : w₁.field w.objects.length = d.object value := by
    rw [reports.field]
    exact w.field_adding _
  have gave := runIn_giveValue given hname field₁
  rw [runIn_buildFields_begins hname, runIn_bind_ok ran]
  unfold FieldDefinition.effective at effective
  cases found : given.find? d.name with
  | none =>
      rw [found] at gave effective
      obtain rfl := Except.ok.inj (hvalue.symm.trans effective)
      exact ⟨w₁, reports, runIn_bind_ok gave⟩
  | some v =>
      rw [found] at gave effective
      simp only [effective, storing] at gave
      exact ⟨_, setField_registering _ _ _ _ _ ▸ reports.setField _ _, runIn_bind_ok gave⟩

/-- The fields of definitions, one after the other, with their names. -/
def entriesIn (registries : Registries) (ds : List FieldDefinition) : List (String × Entry) :=
  ds.zipIdx.map fun e => (e.1.name.text, ⟨e.2, e.1.chain? registries⟩)

/-- The form without fields in which those of definitions have been registered. -/
def formWith (w : World) (ds : List FieldDefinition) : Form :=
  { w.form with fields := .registered (entriesIn w.registries ds) }

/-- The world without fields in which those of definitions have been built. -/
def built (model given : Table Value) (w : World) (ds : List FieldDefinition) : World :=
  { w with
    objects := ds.map fun d => d.object (d.valueIn model given)
    form := formWith w ds
    past := ((List.range ds.length).map fun n => formWith w (ds.take n)).reverse ++ w.past }

/-- What is asked of a definition for its field to be built. -/
structure Builds (registries : Registries) (model given : Table Value) (d : FieldDefinition) :
    Prop where
  valid : d.IsValid
  compiles : ∃ chain, d.chainIn registries = .ok chain
  settles : d.Settles model given

theorem built_concat (hname : ∃ s, d.name = .str s) (ds : List FieldDefinition) :
    ((built model given w ds).adding (d.object (d.valueIn model given))).registering d.name
        ⟨(built model given w ds).objects.length, d.chain? w.registries⟩ =
      built model given w (ds ++ [d]) := by
  obtain ⟨s, hname⟩ := hname
  have last : entriesIn w.registries (ds ++ [d]) =
      entriesIn w.registries ds ++ [(s, ⟨ds.length, d.chain? w.registries⟩)] := by
    simp [entriesIn, List.zipIdx_append, hname, Value.text]
  have past : (List.range ds.length).map (fun n => formWith w ((ds ++ [d]).take n)) =
      (List.range ds.length).map (fun n => formWith w (ds.take n)) := by
    refine List.map_congr_left fun n hn => ?_
    rw [List.take_append_of_le_length (Nat.le_of_lt (List.mem_range.mp hn))]
  have state : { formWith w ds with
      fields := (formWith w ds).fields.add d.name ⟨ds.length, d.chain? w.registries⟩ } =
        formWith w (ds ++ [d]) := by
    simp [formWith, last, FieldTable.registered_concat, hname]
  simp [built, World.adding, World.registering, World.changing, state, past, List.range_succ]

/-- Building fields that can be built does what is expected, and else reports only. -/
theorem runIn_buildFields {ds : List FieldDefinition}
    (builds : ∀ d ∈ ds, Builds w.registries model given d)
    (hmodel : w.form.options.model = .map model) (before : List FieldDefinition) {w₁ : World}
    (reports : (built model given w before).Reports w₁) :
    ∃ w', (built model given w (before ++ ds)).Reports w' ∧
      (buildFields (.map given) [] ds).runIn w₁ = (.ok (), w') := by
  induction ds generalizing before w₁ with
  | nil => exact ⟨w₁, by simpa using reports, rfl⟩
  | cons d rest ih =>
      obtain ⟨here, later⟩ := List.forall_mem_cons.mp builds
      obtain ⟨name, named, -⟩ := here.valid.name
      obtain ⟨chain, compiled⟩ := here.compiles
      have same : d.chain? w.registries = chain := by
        rw [FieldDefinition.chain?, compiled]
        rfl
      have hchain : d.chainIn w₁.registries = .ok chain := by
        rw [reports.registries]
        exact compiled
      have hmodel₁ : w₁.form.options.model = .map model := by rw [reports.form]; exact hmodel
      obtain ⟨w₂, reports', onward⟩ :=
        runIn_buildFields_cons here.valid.isKey_name here.valid.truthy_name hchain hmodel₁
          here.settles rest
      have stepped : (built model given w (before ++ [d])).Reports w₂ := by
        rw [reports.objects, ← same] at reports'
        rw [← built_concat ⟨name, named⟩]
        exact (reports.added _ _ _).trans reports'
      obtain ⟨w', reports'', built⟩ := ih later (before ++ [d]) stepped
      rw [List.append_assoc] at reports''
      exact ⟨w', reports'', onward.trans built⟩

/-! ## Opening a form -/

/-- The built-in rules can be registered again. -/
theorem withBuiltins_builtin : Registries.builtin.withBuiltins = .builtin := by
  rfl

/-- The form of a definition with two functions for its outcomes, before it has fields. -/
def formOf (d : FormDefinition) : Form :=
  .ofOptions { FormOptions.default with
    accept := .function ⟨.accept, 0, 0⟩
    reject := .function ⟨.reject, 0, 1⟩
    model := .map d.model
    validateOnEvent :=
      if d.validateOnEvent.truthy then d.validateOnEvent else .str defaultEvent
    errorHelp := d.errorHelp }

/-- The world in which that form has been opened. -/
def worldOf (d : FormDefinition) : World :=
  { Session.world .builtin with functions := 2, form := formOf d }

/-- The options of a definition, to which further ones are assigned. -/
theorem ofMapping_optionMembers (d : FormDefinition) (named : List (String × Hook)) :
    FormOptions.ofMapping d.optionMembers named = FormOptions.assignAll
      { FormOptions.default with
        model := .map d.model
        validateOnEvent :=
          if d.validateOnEvent.truthy then d.validateOnEvent else .str defaultEvent
        errorHelp := d.errorHelp } named := by
  have event : (FormOptions.member? d.optionMembers "validateOnEvent").getD (.str defaultEvent) =
      if d.validateOnEvent.truthy then d.validateOnEvent else .str defaultEvent := by
    unfold FormDefinition.optionMembers
    split <;> rfl
  have model : FormOptions.member? d.optionMembers "model" = some (.map d.model) := rfl
  have help : FormOptions.member? d.optionMembers "errorHelp" = some d.errorHelp := rfl
  have table : (Value.map d.model).toTable = .ok d.model := Value.toTable_of_opened rfl
  simp only [FormOptions.ofMapping, event, model, help, Option.getD_some, table, ok_bind]

theorem opened_optionMembers (d : FormDefinition) :
    (do Form.opened (← FormOptions.ofMapping d.optionMembers
      [(OptionName.accept.text, .function ⟨.accept, 0, 0⟩),
        (OptionName.reject.text, .function ⟨.reject, 0, 1⟩)])) = .ok (formOf d) := by
  rw [ofMapping_optionMembers]
  rfl

/-- Opening a form from a definition, with functions for both outcomes, comes to building its
fields. -/
theorem runIn_open_begins (d : FormDefinition) (given : Table Value) :
    (Session.open (.definition d [(.accept, .script 0), (.reject, .script 0)] [] (.map given)
        [])).runIn (Session.world .builtin) =
      (buildFields (.map given) [] d.fields).runIn (worldOf d) := by
  have values : (if (Value.map given).truthy then Value.map given else .map []) = .map given := by
    cases given <;> rfl
  have functions : (Session.world .builtin).functions = 0 := rfl
  have registries : (Session.world .builtin).registries.withBuiltins = .builtin :=
    withBuiltins_builtin
  have rest : { Session.world .builtin with
      registries := .builtin, functions := 2, form := formOf d, past := [] } = worldOf d := rfl
  simp [Session.open, takeGiven, takeHook, newFunction, roleOf, namedOptions, start, runIn_bind,
    functions, registries, opened_optionMembers, values, ← rest]

/-- **Opening a form from a definition** builds its fields, and else reports only. -/
theorem runIn_open {d : FormDefinition}
    (builds : ∀ f ∈ d.fields, Builds .builtin d.model given f) :
    ∃ w', (built d.model given (worldOf d) d.fields).Reports w' ∧
      (Session.open (.definition d [(.accept, .script 0), (.reject, .script 0)] [] (.map given)
        [])).runIn (Session.world .builtin) = (.ok (), w') := by
  rw [runIn_open_begins]
  exact runIn_buildFields (w := worldOf d) builds rfl [] (.refl _)

/-- The form of a definition with a function for acceptance only. -/
def acceptingFormOf (d : FormDefinition) : Form :=
  .ofOptions { (formOf d).options with reject := .ignore }

/-- The world in which that form has been opened. -/
def acceptingOf (d : FormDefinition) : World :=
  { worldOf d with functions := 1, form := acceptingFormOf d }

/-- Opening a form without values, with a function for acceptance only, comes to building its
fields as well. -/
theorem runIn_open_accepting (d : FormDefinition) :
    (Session.open (.definition d [(.accept, .script 0)] [] .null [])).runIn
        (Session.world .builtin) =
      (buildFields (.map []) [] d.fields).runIn (acceptingOf d) := by
  have opened : (do Form.opened (← FormOptions.ofMapping d.optionMembers
      [(OptionName.accept.text, .function ⟨.accept, 0, 0⟩)])) = .ok (acceptingFormOf d) := by
    rw [ofMapping_optionMembers]
    rfl
  have nothing : Value.null.truthy = false := rfl
  have functions : (Session.world .builtin).functions = 0 := rfl
  have registries : (Session.world .builtin).registries.withBuiltins = .builtin :=
    withBuiltins_builtin
  have rest : { Session.world .builtin with
      registries := .builtin, functions := 1, form := acceptingFormOf d, past := [] } =
        acceptingOf d := rfl
  simp [Session.open, takeGiven, takeHook, newFunction, roleOf, namedOptions, start, runIn_bind,
    functions, registries, opened, nothing, ← rest]

/-! ## What is found in such a world -/

section Built

variable (model given : Table Value) (w : World) (ds : List FieldDefinition)

/-- The definitions of a name, in order. -/
def named (ds : List FieldDefinition) (name : String) : List FieldDefinition :=
  ds.filter (·.name.text == name)

theorem names_entriesIn (registries : Registries) :
    (entriesIn registries ds).map (·.1) = ds.map (·.name.text) := by
  have names : (entriesIn registries ds).map (·.1) = (ds.zipIdx.map (·.1)).map (·.name.text) := by
    rw [entriesIn, List.map_map, List.map_map]
    rfl
  rw [names, List.zipIdx_map_fst]

/-- The names of a built form, each once, by first occurrence. -/
theorem keys_built :
    (built model given w ds).form.fields.keys =
      (ds.map (·.name.text)).eraseDups.map .str := by
  rw [← names_entriesIn ds w.registries]
  exact FieldTable.keys_registered _

/-- What is registered under a name are the fields of its definitions. -/
theorem map_under_entriesIn (name : String) :
    (FieldTable.under (entriesIn w.registries ds) name).map
        (fun e => ((built model given w ds).field e.field, e.chain)) =
      (named ds name).map fun d => (d.object (d.valueIn model given), d.chain? w.registries) := by
  have entries : FieldTable.under (entriesIn w.registries ds) name =
      (ds.zipIdx.filter (·.1.name.text == name)).map fun e =>
        ⟨e.2, e.1.chain? w.registries⟩ := by
    simp [FieldTable.under, entriesIn, List.filter_map, Function.comp_def]
  have definitions : named ds name =
      (ds.zipIdx.filter (·.1.name.text == name)).map (·.1) := by
    conv => lhs; rw [named, ← List.zipIdx_map_fst 0 ds, List.filter_map]
    rfl
  rw [entries, definitions, List.map_map, List.map_map]
  refine List.map_congr_left fun e he => ?_
  have here : ds[e.2]? = some e.1 := List.mem_zipIdx_iff_getElem?.mp (List.mem_of_mem_filter he)
  simp [built, World.field, here]

/-- Each registered name stands with the fields of its definitions. -/
theorem exists_of_mem_built {b : Value × List Entry}
    (hb : b ∈ (built model given w ds).form.fields.buckets) :
    ∃ name, b.1 = .str name ∧
      b.2.map (fun e => ((built model given w ds).field e.field, e.chain)) =
        (named ds name).map fun d => (d.object (d.valueIn model given), d.chain? w.registries) := by
  obtain ⟨name, -, rfl⟩ := FieldTable.eq_of_mem_registered hb
  exact ⟨name, rfl, map_under_entriesIn model given w ds name⟩

end Built

end Session

end FormRules
