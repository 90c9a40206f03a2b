/-
# Assembly — what any definition is built into

`Building` says what comes of definitions whose fields are named by texts and have no validators.
Here nothing is asked of the definitions: names may be any values and come several times, and each
field may get a validator.  A definition joins a form (`FieldDefinition.Joins`) if

    its name       counts, and can be looked up
    its rules      compile
    its values     can be stored: the one of the model, and the one that is given

Building succeeds exactly if all definitions join (`runIn_buildFields_cases`), and then each has one
registration more, and one field more that holds its value (`Assembled`).  What the form reports
afterwards is read off the definitions (`Assembled.readings`):

    definitions of a name       reading
    one                         the value of its field
    several                     `false`
-/
import FormRules.Proofs.Form.Filling
import FormRules.Proofs.Session.Failing

namespace FormRules

open FormM Session

/-! ## Definitions that join a form -/

namespace FieldDefinition

/-- The field of a definition can be added to a form and given its values. -/
structure Joins (registries : Registries) (model given : Table Value) (d : FieldDefinition) :
    Prop where
  full : d.name.truthy = true
  isKey : d.name.isKey = true
  compiles : ∃ chain, d.chainIn registries = .ok chain
  settles : d.Settles model given

end FieldDefinition

namespace World

/-- What the field objects hold. -/
def currents (w : World) : List Value := w.objects.map Field.current

/-- The new field of a definition can be added if its name and its rules are fine. -/
theorem admits_making_iff {w : World} {d : FieldDefinition} {validator : Hook} {n : Nat} :
    (w.making (d.fresh validator) n).Admits w.objects.length ↔
      d.name.truthy = true ∧ d.name.isKey = true ∧ ∃ chain, d.chainIn w.registries = .ok chain := by
  have here := w.field_making (d.fresh validator) n
  have chains : (w.making (d.fresh validator) n).chainOf (d.fresh validator) =
      d.chainIn w.registries := chainOf_eq_chainIn _ rfl rfl
  constructor
  · rintro ⟨full, isKey, compiles⟩
    rw [here] at full isKey compiles
    rw [chains] at compiles
    exact ⟨full, isKey, compiles⟩
  · rintro ⟨full, isKey, compiles⟩
    refine ⟨?_, ?_, ?_⟩
    · rw [here]
      exact full
    · rw [here]
      exact isKey
    · rw [here, chains]
      exact compiles

/-- What has come of building a definition: one registration more, and one field that holds a
value. -/
structure Joined (w : World) (d : FieldDefinition) (value : Value) (w' : World) : Prop where
  registries : w'.registries = w.registries
  options : w'.form.options = w.form.options
  fields : w'.form.fields =
    w.form.fields.add d.name ⟨w.objects.length, d.chain? w.registries⟩
  currents : w'.currents = w.currents ++ [value]

end World

namespace Session

variable {d : FieldDefinition} {model given : Table Value} {w : World}

/-! ## One definition -/

/-- Taking over a function, or a value in its place, only counts functions. -/
theorem runIn_takeHook (role : Role) (source : HookSource) (w : World) :
    ∃ hook n, (takeHook role source).runIn w = (.ok hook, { w with functions := n }) := by
  cases source with
  | value v => exact ⟨.value v, w.functions, rfl⟩
  | script n => exact ⟨.function ⟨role, n, w.functions⟩, w.functions + 1, rfl⟩

section Fresh

variable {validator : Hook} {id : FieldId} {w₁ : World} (hname : d.name.isKey = true)

include hname

/-- A new field that has been added is given what the model has for it. -/
theorem runIn_registerField_fresh (field₁ : w₁.field id = d.fresh validator)
    (model₁ : w₁.form.options.model = .map model)
    (added : (Form.addField id).runIn w = (.ok (), w₁)) :
    (Form.registerField id).runIn w = match d.initial model with
      | .ok value => (.ok (), w₁.setField id ((d.fresh validator).withCurrent value))
      | .error f => (.error f, w₁) := by
  have opened : w₁.form.options.model.opened = .map model := by rw [model₁]; rfl
  have name : (d.fresh validator).name = d.name := rfl
  have filled : w₁.filled (w₁.field id) =
      (d.initial model).map (d.fresh validator).withCurrent := by
    rw [field₁, World.filled_eq_of_map opened (by rwa [name]), name, FieldDefinition.initial]
    cases model.find? d.name with
    | none => exact congrArg Except.ok (d.withCurrent_blank validator).symm
    | some v => rfl
  rw [Form.runIn_registerField_of_runIn_addField added, filled]
  cases d.initial model <;> rfl

/-- After that it is given the value for its name, if there is one. -/
theorem runIn_giveValue_fresh (given : Table Value) (validator : Hook) (hid : id < w₁.objects.length) {value : Value}
    (initial : d.initial model = .ok value) :
    (giveValue given d id).runIn (w₁.setField id ((d.fresh validator).withCurrent value)) =
      match d.effective model given with
      | .ok held => (.ok (), w₁.setField id ((d.fresh validator).withCurrent held))
      | .error f => (.error f, w₁.setField id ((d.fresh validator).withCurrent value)) := by
  have here : (w₁.setField id ((d.fresh validator).withCurrent value)).field id =
      (d.fresh validator).withCurrent value := by
    simp [World.field, World.setField, hid]
  have again (held : Value) : (w₁.setField id ((d.fresh validator).withCurrent value)).setField id
      ((d.fresh validator).withCurrent held) =
        w₁.setField id ((d.fresh validator).withCurrent held) := by
    simp [World.setField]
  have kind : ((d.fresh validator).withCurrent value).kind = d.kind := Field.kind_withCurrent _ _
  rw [runIn_giveValue_of_kind given hname (by rw [here, kind]), here, FieldDefinition.effective]
  cases given.find? d.name with
  | none => simp only [initial]
  | some v =>
      dsimp only
      cases (do d.kind.holding (← valueFor d.kind v) : Outcome Value) with
      | error f => rfl
      | ok held => simp only [Field.withCurrent_withCurrent, again]

end Fresh

/-- A new field that has been added and holds a value is one registration more. -/
theorem joined_of_reports {validator : Hook} {n : Nat} {chain : Option Chain} {w₁ : World}
    (compiled : d.chainIn w.registries = .ok chain)
    (reports : ((w.making (d.fresh validator) n).registering d.name
      ⟨w.objects.length, chain⟩).Reports w₁) (value : Value) :
    w.Joined d value
      (w₁.setField w.objects.length ((d.fresh validator).withCurrent value)) where
  registries := reports.registries
  options := by
    show w₁.form.options = w.form.options
    rw [reports.form]
    rfl
  fields := by
    have same : d.chain? w.registries = chain := by
      rw [FieldDefinition.chain?, compiled]
      rfl
    show w₁.form.fields = _
    rw [same, reports.form]
    rfl
  currents := by
    have objects : w₁.objects = w.objects ++ [d.fresh validator] := reports.objects
    simp [World.currents, World.setField, objects]

/-- A new field that has been added is given its values, if they can be stored. -/
theorem runIn_settle_cases {validator : Hook} {id : FieldId} {w₀ w₁ : World}
    (added : (Form.addField id).runIn w₀ = (.ok (), w₁)) (field₁ : w₁.field id = d.fresh validator)
    (model₁ : w₁.form.options.model = .map model) (hid : id < w₁.objects.length)
    (hname : d.name.isKey = true) (next : FormM Unit) :
    (d.Settles model given ∧
      (do Form.registerField id; giveValue given d id; next).runIn w₀ =
        next.runIn (w₁.setField id ((d.fresh validator).withCurrent (d.valueIn model given)))) ∨
    (¬ d.Settles model given ∧ ∃ f w',
      (do Form.registerField id; giveValue given d id; next).runIn w₀ = (.error f, w')) := by
  have registered := runIn_registerField_fresh hname field₁ model₁ added
  cases initial : d.initial model with
  | error f =>
      right
      rw [initial] at registered
      refine ⟨fun settles => ?_, f, w₁, runIn_bind_error registered⟩
      obtain ⟨value, some⟩ := settles.initial
      cases initial.symm.trans some
  | ok value =>
      rw [initial] at registered
      have gave := runIn_giveValue_fresh hname given validator hid initial
      cases effective : d.effective model given with
      | error f =>
          right
          rw [effective] at gave
          refine ⟨fun settles => ?_, f, _,
            (runIn_bind_ok registered).trans (runIn_bind_error gave)⟩
          obtain ⟨held, some⟩ := settles.effective
          cases effective.symm.trans some
      | ok held =>
          left
          rw [effective] at gave
          have settles : d.Settles model given := ⟨⟨value, initial⟩, held, effective⟩
          obtain rfl : held = d.valueIn model given :=
            Except.ok.inj (effective.symm.trans settles.effective_eq)
          exact ⟨settles, (runIn_bind_ok registered).trans (runIn_bind_ok gave)⟩

/-- **Building a definition** has its field join the form, or fails. -/
theorem runIn_buildFields_cons_cases (given : Table Value) (validators : Table HookSource)
    (hmodel : w.form.options.model = .map model) (d : FieldDefinition)
    (rest : List FieldDefinition) :
    (d.Joins w.registries model given ∧ ∃ w', w.Joined d (d.valueIn model given) w' ∧
      (buildFields (.map given) validators (d :: rest)).runIn w =
        (buildFields (.map given) validators rest).runIn w') ∨
    (¬ d.Joins w.registries model given ∧ ∃ f w',
      (buildFields (.map given) validators (d :: rest)).runIn w = (.error f, w')) := by
  by_cases hname : d.name.isKey = true
  · obtain ⟨validator, n, taken⟩ := runIn_takeHook (.validator d.name)
      ((validators.find? d.name).getD (.value .null)) w
    have begun := runIn_buildFields_of_taken given hname taken rest
    by_cases admits : (w.making (d.fresh validator) n).Admits w.objects.length
    · obtain ⟨full, -, chain, compiled⟩ := World.admits_making_iff.mp admits
      obtain ⟨w₁, reports, field₁, added⟩ := exists_added_fresh validator n hname full compiled
      have model₁ : w₁.form.options.model = .map model := by
        rw [reports.form]
        exact hmodel
      have bound : w.objects.length < w₁.objects.length := by
        rw [reports.objects]
        simp [World.registering, World.changing, World.making]
      rcases runIn_settle_cases added field₁ model₁ bound hname
          (buildFields (.map given) validators rest) with ⟨settles, ran⟩ | ⟨not, f, w', failed⟩
      · left
        exact ⟨⟨full, hname, ⟨chain, compiled⟩, settles⟩, _, joined_of_reports compiled reports _,
          begun.trans ran⟩
      · right
        exact ⟨fun joins => not joins.settles, f, w', begun.trans failed⟩
    · obtain ⟨f, refused⟩ := Form.runIn_addField_of_not_admits admits
      right
      refine ⟨fun joins => admits ?_, f, _,
        begun.trans (runIn_bind_error (runIn_bind_error refused))⟩
      exact World.admits_making_iff.mpr ⟨joins.full, joins.isKey, joins.compiles⟩
  · right
    exact ⟨fun joins => hname joins.isKey, .typeMismatch, w, by simp [buildFields, hname]⟩

/-! ## All definitions -/

/-- The registrations of definitions, of which the first has the `n`-th field object. -/
def ledgerOf (registries : Registries) (n : Nat) (ds : List FieldDefinition) : Ledger :=
  (ds.zipIdx n).map fun e => (e.1.name, ⟨e.2, e.1.chain? registries⟩)

theorem names_ledgerOf (registries : Registries) (n : Nat) (ds : List FieldDefinition) :
    (ledgerOf registries n ds).map (·.1) = ds.map (·.name) := by
  conv => rhs; rw [← List.zipIdx_map_fst n ds]
  rw [ledgerOf, List.map_map, List.map_map]
  rfl

/-- The registered fields of definitions. -/
def fieldsOf (registries : Registries) (n : Nat) (ds : List FieldDefinition) : FieldTable :=
  (ledgerOf registries n ds).foldl (fun t e => t.add e.1 e.2) .empty

/-- What has come of building definitions. -/
structure Assembled (model given : Table Value) (w : World) (ds : List FieldDefinition)
    (w' : World) : Prop where
  fields : w'.form.fields =
    (ledgerOf w.registries w.objects.length ds).foldl (fun t e => t.add e.1 e.2) w.form.fields
  currents : w'.currents = w.currents ++ ds.map (·.valueIn model given)

/-- The first field joins, and then the others are built. -/
theorem Assembled.cons {w₁ w' : World} {rest : List FieldDefinition}
    (first : w.Joined d (d.valueIn model given) w₁) (later : Assembled model given w₁ rest w') :
    Assembled model given w (d :: rest) w' where
  fields := by
    have length : w₁.objects.length = w.objects.length + 1 := by
      have counted := congrArg List.length first.currents
      simpa [World.currents] using counted
    rw [later.fields, first.fields, first.registries, length]
    rfl
  currents := by
    rw [later.currents, first.currents]
    simp

/-- **Building gives a form exactly if all definitions join it.** -/
theorem runIn_buildFields_cases (given : Table Value) (validators : Table HookSource)
    (hmodel : w.form.options.model = .map model)
    (ds : List FieldDefinition) :
    ((∀ d ∈ ds, d.Joins w.registries model given) ∧ ∃ w', Assembled model given w ds w' ∧
      (buildFields (.map given) validators ds).runIn w = (.ok (), w')) ∨
    ((¬ ∀ d ∈ ds, d.Joins w.registries model given) ∧ ∃ f w',
      (buildFields (.map given) validators ds).runIn w = (.error f, w')) := by
  induction ds generalizing w with
  | nil =>
      left
      exact ⟨by simp, w, ⟨rfl, by simp⟩, rfl⟩
  | cons d rest ih =>
      rcases runIn_buildFields_cons_cases given validators hmodel d rest with
        ⟨joins, w₁, joined, onward⟩ | ⟨not, f, w', failed⟩
      · have later := ih (w := w₁) (by rw [joined.options]; exact hmodel)
        rw [joined.registries] at later
        rcases later with ⟨all, w', assembled, built⟩ | ⟨not, f, w', failed⟩
        · left
          exact ⟨List.forall_mem_cons.mpr ⟨joins, all⟩, w', .cons joined assembled,
            onward.trans built⟩
        · right
          exact ⟨fun all => not (List.forall_mem_cons.mp all).2, f, w', onward.trans failed⟩
      · right
        exact ⟨fun all => not (List.forall_mem_cons.mp all).1, f, w', failed⟩

/-! ## What a form of definitions reports -/

/-- What is reported of the values of fields that share a name. -/
def readingOf : List Value → Value
  | [v] => v
  | _ => .bool false

theorem reading_eq (w : World) (entries : List Entry) :
    w.reading entries = readingOf (entries.map fun e => (w.field e.field).current) := by
  unfold World.reading readingOf
  cases entries with
  | nil => rfl
  | cons e rest => cases rest <;> rfl

theorem current_eq (w : World) (id : FieldId) :
    (w.field id).current = (w.currents[id]?).getD (default : Field).current := by
  rw [World.field, World.currents, List.getElem?_map]
  cases w.objects[id]? <;> rfl

theorem shows_foldl_add {t : FieldTable} {live : Ledger} (h : t.Shows live) (more : Ledger)
    (hmore : ∀ e ∈ more, e.1.isKey = true) :
    (more.foldl (fun t e => t.add e.1 e.2) t).Shows (live ++ more) := by
  induction more generalizing t live with
  | nil => simpa using h
  | cons e rest ih =>
      obtain ⟨here, later⟩ := List.forall_mem_cons.mp hmore
      have step := ih (h.add here e.2) later
      rw [List.append_assoc] at step
      exact step

/-- The fields that are registered under a key hold the values of its definitions. -/
theorem Assembled.map_under {ds : List FieldDefinition} {w' : World}
    (h : Assembled model given w ds w') (key : Value) :
    ((ledgerOf w.registries w.objects.length ds).under key).map
        (fun e => (w'.field e.field).current) =
      (ds.filter (·.name.same key)).map (·.valueIn model given) := by
  have entries : (ledgerOf w.registries w.objects.length ds).under key =
      ((ds.zipIdx w.objects.length).filter (·.1.name.same key)).map fun e =>
        ⟨e.2, e.1.chain? w.registries⟩ := by
    simp [ledgerOf, Ledger.under, List.filter_map, Function.comp_def]
  have definitions : ds.filter (·.name.same key) =
      ((ds.zipIdx w.objects.length).filter (·.1.name.same key)).map (·.1) := by
    conv => lhs; rw [← List.zipIdx_map_fst w.objects.length ds, List.filter_map]
    rfl
  rw [entries, definitions, List.map_map, List.map_map]
  refine List.map_congr_left fun e he => ?_
  obtain ⟨d, i⟩ := e
  obtain ⟨after, here⟩ :=
    List.mk_mem_zipIdx_iff_le_and_getElem?_sub.mp (List.mem_of_mem_filter he)
  have before : w.currents.length = w.objects.length := List.length_map _
  show (w'.field i).current = d.valueIn model given
  rw [current_eq, h.currents, List.getElem?_append_right (by rwa [before]), before,
    List.getElem?_map, here]
  rfl

section Readings

variable {ds : List FieldDefinition} (hds : ∀ d ∈ ds, d.name.isKey = true)

include hds

theorem shows_fieldsOf (registries : Registries) (n : Nat) :
    (fieldsOf registries n ds).Shows (ledgerOf registries n ds) := by
  refine shows_foldl_add .empty _ fun e he => ?_
  obtain ⟨⟨d, i⟩, hd, rfl⟩ := List.mem_map.mp he
  exact hds d (List.fst_mem_of_mem_zipIdx hd)

/-- The names of a form are those of its definitions. -/
theorem exists_key_fieldsOf (registries : Registries) (n : Nat) (hd : d ∈ ds) :
    ∃ k ∈ (fieldsOf registries n ds).keys, k.same d.name = true := by
  have named : d.name ∈ (ledgerOf registries n ds).map (·.1) := by
    rw [names_ledgerOf]
    exact List.mem_map_of_mem hd
  obtain ⟨e, he, name⟩ := List.mem_map.mp named
  have live : (ledgerOf registries n ds).under d.name ≠ [] :=
    Ledger.under_ne_nil_iff.mpr ⟨e, he, by rw [name]; exact Value.same_self _⟩
  exact Table.contains_iff.mp
    ((FieldTable.contains_iff_find? (shows_fieldsOf hds registries n) (hds d hd)).mpr live)

/-- **What a form reports is read off its definitions.** -/
theorem Assembled.readings {w' : World} (h : Assembled model given w ds w')
    (nothing : w.form.fields = .empty) :
    w'.readings = (fieldsOf w.registries w.objects.length ds).keys.map fun k =>
      (k, readingOf ((ds.filter (·.name.same k)).map (·.valueIn model given))) := by
  have fields : w'.form.fields = fieldsOf w.registries w.objects.length ds := by
    rw [h.fields, nothing]
    rfl
  rw [World.readings, fields, FieldTable.keys, Table.keys, List.map_map]
  refine List.map_congr_left fun b hb => ?_
  have isKey := (fieldsOf w.registries w.objects.length ds).isKey b hb
  have shown := shows_fieldsOf hds w.registries w.objects.length b.1 isKey
  rw [Table.find?_of_mem (fieldsOf w.registries w.objects.length ds).distinct hb,
    Option.getD_some] at shown
  show (b.1, w'.reading b.2) = (b.1, _)
  rw [reading_eq, shown, h.map_under]

/-- Forms of the same definitions report the same exactly if the fields that are alone under their
names do. -/
theorem map_readingOf_eq_iff (registries : Registries) (n : Nat)
    {g g' : FieldDefinition → Value} :
    ((fieldsOf registries n ds).keys.map fun k =>
        (k, readingOf ((ds.filter (·.name.same k)).map g))) =
      ((fieldsOf registries n ds).keys.map fun k =>
        (k, readingOf ((ds.filter (·.name.same k)).map g'))) ↔
      ∀ d ∈ ds, ds.filter (·.name.same d.name) = [d] → g d = g' d := by
  simp only [List.map_inj_left, Prod.mk.injEq, true_and]
  constructor
  · intro same d hd alone
    obtain ⟨k, hk, named⟩ := exists_key_fieldsOf hds registries n hd
    have key : k.isKey = true := FieldTable.isKey_of_mem_keys hk
    have reported := same k hk
    simp only [Table.same_of_same key named, alone] at reported
    exact reported
  · intro same k hk
    rcases found : ds.filter (·.name.same k) with _ | ⟨d, _ | ⟨d', more⟩⟩
    · rw [found]
      rfl
    · rw [found]
      obtain ⟨hd, named⟩ := List.mem_filter.mp (found ▸ List.mem_singleton_self d)
      have alone : ds.filter (·.name.same d.name) = [d] := by
        simp only [Table.same_of_same (hds d hd) named, found]
      exact same d hd alone
    · rw [found]
      rfl

end Readings

end Session

end FormRules
