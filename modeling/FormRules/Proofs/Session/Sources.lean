/-
# Sources — a form that is filled from its model, and one that is given values

A definition has a model, and a form may be built of it with further values.  Both are mappings from
names to values, and most of the time it is the same whether a mapping stands in the one place or in
the other.  For a field of files it is not, because only values that are given are taken for files
(`Session.valueFor`):

    the mapping has for a field of files       in the model      as a given value
    nothing, or `null`                         no files          no files
    a collection without mappings              its members       its members
    a collection with mappings                 its members       its members, mappings as files
    one with a mapping that names no file      its members       no form
    what counts and is no collection           no form           no form
    `0`, or another such value                 no files          no form

The theorem at the end says that these are all differences, whatever else the definition has: both
ways fail, or lead to forms that report the same, exactly if each field of files finds itself in the
first two lines, where a field that shares its name need only hold its files in both.
-/
import FormRules.Proofs.Session.Assembly

namespace FormRules

open FormM Session

/-! ## What a field holds by either way -/

/-- A collection that has members, if it does not count, has none. -/
theorem Value.truthy_of_members? {v : Value} {members : List Value}
    (h : v.members? = some members) (some : members ≠ []) : v.truthy = true := by
  cases v with
  | list xs | tuple xs | set xs =>
      obtain rfl : xs = members := Option.some.inj h
      simpa [truthy] using some
  | map es =>
      obtain rfl : es.map (·.1) = members := Option.some.inj h
      simpa [truthy] using some
  | bytes bs =>
      obtain rfl : bs.map (fun b => Value.int b.toNat) = members := Option.some.inj h
      simpa [truthy] using some
  | str s =>
      obtain rfl : s.toList.map (fun c => Value.str (String.ofList [c])) = members :=
        Option.some.inj h
      simpa [truthy] using some
  | ring nodes place => rfl
  | _ => cases h

/-- What a field of files can hold is stored in a model as well. -/
theorem Value.HoldsFiles.exists_members {v : Value} (h : v.HoldsFiles) (counts : v.truthy = true) :
    ∃ members, v.members? = some members := by
  rcases h with rfl | ⟨members, found, -⟩
  · cases counts
  · exact ⟨members, found⟩

namespace FieldKind

theorem holding_file {v : Value} {members : List Value} (h : v.members? = some members) :
    FieldKind.file.holding v = .ok (.tuple members) := by
  by_cases counts : v.truthy = true
  · simp [holding, counts, Value.members, h, Except.map]
  · have none : members = [] := by
      by_contra some
      exact counts (Value.truthy_of_members? h some)
    rw [holding, if_neg counts, none]

theorem held_file {v : Value} {members files : List Value} (h : v.members? = some members)
    (read : members.mapM fileFor = .ok files) :
    FieldKind.file.held v = .ok (.tuple files) := by
  have some : v ≠ .null := by
    rintro rfl
    cases h
  have found : v.members = .ok members := by rw [Value.members, h]
  rw [held, valueFor_file some, found]
  show ((members.mapM fileFor >>= fun files => pure (Value.list files)) >>= _) = _
  rw [read]
  exact @holding_file (.list files) files rfl

end FieldKind

/-- A member that is no mapping is taken as it is, and no mapping is. -/
theorem fileFor_eq_self_iff {item : Value} : fileFor item = .ok item ↔ ¬ item.IsMapping := by
  unfold fileFor Value.IsMapping
  split
  · rename_i entries opened
    refine iff_of_false (fun taken => ?_) (not_not.mpr ⟨entries, opened⟩)
    -- What a mapping is taken for is a file, which is no mapping.
    have opens : (Value.map entries).opened = .map entries := rfl
    simp only [fileOfValue, opens] at taken
    cases name : Table.find? entries (.str "name") with
    | none =>
        rw [name] at taken
        cases taken
    | some name' =>
        simp only [name, bind_eq_ok_iff, pure_eq_ok_iff] at taken
        obtain ⟨size, -, rfl⟩ := taken
        cases opened
  · rename_i other
    exact iff_of_true rfl fun ⟨entries, opened⟩ => other entries opened

theorem mapM_fileFor_eq_self_iff {items : List Value} :
    items.mapM fileFor = .ok items ↔ ∀ m ∈ items, ¬ m.IsMapping := by
  rw [mapM_eq_ok_iff, List.forall₂_same]
  exact forall₂_congr fun _ _ => fileFor_eq_self_iff

/-- A value whose mappings name files is held alike exactly if it has no mappings. -/
theorem FieldKind.holding_eq_held_iff {v : Value} (h : v.HoldsFiles) :
    FieldKind.file.holding v = FieldKind.file.held v ↔
      ∀ members, v.members? = some members → ∀ m ∈ members, ¬ m.IsMapping := by
  rcases h with rfl | ⟨members, found, names⟩
  · exact iff_of_true rfl nofun
  · obtain ⟨files, read⟩ := exists_mapM_eq_ok_iff.mpr fun m hm =>
      exists_fileFor_iff.mpr (names m hm)
    rw [holding_file found, held_file found read, found]
    simp only [Option.some.injEq, forall_eq', Except.ok.injEq, Value.tuple.injEq]
    rw [← mapM_fileFor_eq_self_iff, read, Except.ok.injEq, eq_comm]

/-! ## Which definitions join -/

namespace FieldDefinition

variable {registries : Registries} {model given : Table Value} {d : FieldDefinition}

/-- A model can be stored if no field of files is to hold what counts and has no members. -/
theorem joins_model_iff :
    d.Joins registries model [] ↔ d.Joins registries [] [] ∧
      ∀ v, model.find? d.name = some v → d.kind = .file → v.truthy = true →
        ∃ members, v.members? = some members := by
  have storable : (∃ value, d.initial model = .ok value) ↔
      ∀ v, model.find? d.name = some v → d.kind = .file → v.truthy = true →
        ∃ members, v.members? = some members := by
    unfold initial
    cases model.find? d.name with
    | none => exact iff_of_true ⟨_, rfl⟩ nofun
    | some v => simp only [FieldKind.exists_holding_iff, Option.some.injEq, forall_eq']
  constructor
  · intro joins
    exact ⟨⟨joins.full, joins.isKey, joins.compiles, ⟨_, rfl⟩, ⟨_, rfl⟩⟩,
      storable.mp joins.settles.initial⟩
  · rintro ⟨joins, members⟩
    have initial := storable.mpr members
    exact ⟨joins.full, joins.isKey, joins.compiles, initial, initial⟩

/-- Values that are given can be stored if fields of files can hold theirs. -/
theorem joins_given_iff :
    d.Joins registries [] given ↔ d.Joins registries [] [] ∧
      ∀ v, given.find? d.name = some v → d.kind = .file → v.HoldsFiles := by
  have blank : ∃ value, d.initial [] = .ok value := ⟨_, rfl⟩
  have storable := @exists_effective_iff [] given d blank
  constructor
  · intro joins
    exact ⟨⟨joins.full, joins.isKey, joins.compiles, blank, blank⟩,
      storable.mp joins.settles.effective⟩
  · rintro ⟨joins, holds⟩
    exact ⟨joins.full, joins.isKey, joins.compiles, blank, storable.mpr holds⟩

theorem forall_joins_model_iff {ds : List FieldDefinition} :
    (∀ d ∈ ds, d.Joins registries model []) ↔ (∀ d ∈ ds, d.Joins registries [] []) ∧
      ∀ d ∈ ds, ∀ v, model.find? d.name = some v → d.kind = .file → v.truthy = true →
        ∃ members, v.members? = some members := by
  rw [← forall₂_and]
  exact forall₂_congr fun _ _ => joins_model_iff

theorem forall_joins_given_iff {ds : List FieldDefinition} :
    (∀ d ∈ ds, d.Joins registries [] given) ↔ (∀ d ∈ ds, d.Joins registries [] []) ∧
      ∀ d ∈ ds, ∀ v, given.find? d.name = some v → d.kind = .file → v.HoldsFiles := by
  rw [← forall₂_and]
  exact forall₂_congr fun _ _ => joins_given_iff

/-- A field that both ways can fill holds the same by both exactly if no mappings are to be files of
it. -/
theorem valueIn_eq_iff {v : Table Value}
    (holds : ∀ x, v.find? d.name = some x → d.kind = .file → x.HoldsFiles) :
    d.valueIn v [] = d.valueIn [] v ↔ ∀ x, v.find? d.name = some x → d.kind = .file →
      ∀ members, x.members? = some members → ∀ m ∈ members, ¬ m.IsMapping := by
  cases found : v.find? d.name with
  | none =>
      have nothing : d.valueIn v [] = d.valueIn [] v := by
        simp only [valueIn, effective, initial, found, Table.find?_nil]
      refine iff_of_true nothing ?_
      intro x impossible
      cases impossible
  | some x =>
      have byModel : d.effective v [] = d.kind.holding x := by
        simp only [effective, initial, found, Table.find?_nil]
      have byValue : d.effective [] v = d.kind.held x := by
        simp only [effective, found]
        rfl
      simp only [valueIn, byModel, byValue, Option.some.injEq, forall_eq']
      cases kind : d.kind with
      | file =>
          have holdsFiles := holds x found kind
          obtain ⟨members, taken⟩ := (@FieldKind.exists_holding_iff .file x).mpr
            fun _ => holdsFiles.exists_members
          obtain ⟨files, read⟩ := FieldKind.exists_held_file_iff.mpr holdsFiles
          have alike := FieldKind.holding_eq_held_iff holdsFiles
          rw [taken, read, Except.ok.injEq] at alike
          rw [taken, read]
          exact alike.trans ⟨fun none _ => none, fun none => none rfl⟩
      | text | checkbox | other =>
          refine iff_of_true rfl ?_
          intro file
          cases file

end FieldDefinition

/-! ## Opening with another model -/

namespace FormOptions

/-- Setting another option by its name leaves the model alone, and does not depend on it. -/
theorem assignNamed_of_ne_model {n : OptionName} (other : n ≠ .model) (o : FormOptions)
    (model : Value) (h : Hook) :
    assignNamed { o with model := model } n.text h =
      (o.assignNamed n.text h).map fun o' => { o' with model := model } := by
  unfold assignNamed
  split
  · rfl
  · cases n <;> first | rfl | exact absurd rfl other

theorem assignAll_of_ne_model {named : List (OptionName × Hook)}
    (others : ∀ e ∈ named, e.1 ≠ .model) (o : FormOptions) (model : Value) :
    assignAll { o with model := model } (named.map fun e => (e.1.text, e.2)) =
      (o.assignAll (named.map fun e => (e.1.text, e.2))).map fun o' =>
        { o' with model := model } := by
  induction named generalizing o with
  | nil => rfl
  | cons e rest ih =>
      obtain ⟨here, later⟩ := List.forall_mem_cons.mp others
      have single : e.1.text ≠ allAtOnce := by cases e.1 <;> decide
      rw [List.map_cons, assignAll, assignAll, if_neg single]
      show (assignNamed { o with model := model } e.1.text e.2 >>= fun o' => assignAll o' _) =
        (o.assignNamed e.1.text e.2 >>= fun o' => assignAll o' _).map _
      rw [assignNamed_of_ne_model here]
      cases o.assignNamed e.1.text e.2 with
      | error f => rfl
      | ok o' => exact ih later o'

end FormOptions

namespace Session

/-- The world in which a form has been opened with options. -/
def openedIn (w : World) (o : FormOptions) : World :=
  { w with registries := w.registries.withBuiltins, form := .ofOptions o, past := [] }

theorem registries_openedIn (w : World) (o : FormOptions) :
    (openedIn w o).registries = w.registries.withBuiltins := by
  rw [openedIn]

theorem objects_openedIn (w : World) (o : FormOptions) : (openedIn w o).objects = w.objects := by
  rw [openedIn]

theorem model_openedIn (w : World) (o : FormOptions) (model : Value) :
    (openedIn w { o with model := model }).form.options.model = model := rfl

theorem fields_openedIn (w : World) (o : FormOptions) : (openedIn w o).form.fields = .empty := rfl

/-- The functions among given options are taken over, and else nothing happens. -/
theorem runIn_takeGiven (given : Given) (w : World) :
    ∃ hooks n, (takeGiven given).runIn w = (.ok hooks, { w with functions := n }) ∧
      hooks.map (·.1) = given.map (·.1) := by
  induction given generalizing w with
  | nil => exact ⟨[], w.functions, rfl, rfl⟩
  | cons e rest ih =>
      obtain ⟨name, source⟩ := e
      obtain ⟨hook, n, taken⟩ := runIn_takeHook (roleOf name) source w
      obtain ⟨hooks, n', later, names⟩ := ih { w with functions := n }
      refine ⟨(name, hook) :: hooks, n', ?_, by rw [List.map_cons, names, List.map_cons]⟩
      rw [takeGiven, runIn_bind_ok taken, runIn_bind_ok later]
      rfl

/-- The options of a definition, with those that are given by name. -/
def optionsOf (d : FormDefinition) (named : List (OptionName × Hook)) : Outcome FormOptions :=
  FormOptions.ofMapping d.optionMembers (named.map fun e => (e.1.text, e.2))

/-- Functions by name, where without an accept function there is nothing in its place. -/
def accepting (hooks : List (OptionName × Hook)) : List (OptionName × Hook) :=
  if (hooks.lookup .accept).isSome then hooks else (.accept, .none) :: hooks

/-- A form is opened with its options, and then its fields are built. -/
theorem runIn_open_of_taken (d : FormDefinition) {given : Given}
    {hooks : List (OptionName × Hook)} {w w₁ : World}
    (taken : (takeGiven given).runIn w = (.ok hooks, w₁)) (values : Value)
    (validators : Table HookSource) :
    (Session.open (.definition d given [] values validators)).runIn w =
      match optionsOf d (accepting hooks) >>= Form.opened with
      | .ok f => (buildFields (if values.truthy then values else .map []) validators
          d.fields).runIn { w₁ with
            registries := w₁.registries.withBuiltins, form := f, past := [] }
      | .error f => (.error f, w₁) := by
  have named : namedOptions (accepting hooks) [] [OptionName.accept.text, OptionName.reject.text,
      "values", "validators", "data", "cls", "self"] =
        .ok ((accepting hooks).map fun e => (e.1.text, e.2)) := by
    simp [namedOptions]
  rw [Session.open, runIn_bind_ok taken]
  show (do
    let named ← lift (namedOptions (accepting hooks) [] _)
    start (← lift (do Form.opened (← FormOptions.ofMapping d.optionMembers named)))
    buildFields (if values.truthy then values else .map []) validators d.fields).runIn w₁ = _
  rw [named, optionsOf]
  simp only [runIn_bind, runIn_lift]
  cases (FormOptions.ofMapping d.optionMembers _ >>= Form.opened) <;> rfl

theorem ne_model_of_mem_accepting {hooks : List (OptionName × Hook)}
    (h : ∀ e ∈ hooks, e.1 ≠ .model) : ∀ e ∈ accepting hooks, e.1 ≠ .model := by
  unfold accepting
  split
  · exact h
  · exact List.forall_mem_cons.mpr ⟨nofun, h⟩

/-- The options do not depend on the model, but for the model itself. -/
theorem exists_optionsOf (d : FormDefinition) {named : List (OptionName × Hook)}
    (hnamed : ∀ e ∈ named, e.1 ≠ .model) :
    (∃ f, ∀ model, optionsOf { d with model := model } named >>= Form.opened = .error f) ∨
    ∃ o : FormOptions, ∀ model, optionsOf { d with model := model } named >>= Form.opened =
      .ok (.ofOptions { o with model := .map model }) := by
  let base : FormOptions := { FormOptions.default with
    validateOnEvent := if d.validateOnEvent.truthy then d.validateOnEvent else .str defaultEvent
    errorHelp := d.errorHelp }
  have options (model : Table Value) : optionsOf { d with model := model } named =
      (base.assignAll (named.map fun e => (e.1.text, e.2))).map fun o =>
        { o with model := .map model } :=
    (ofMapping_optionMembers { d with model := model } _).trans
      (FormOptions.assignAll_of_ne_model hnamed base (.map model))
  cases assigned : base.assignAll (named.map fun e => (e.1.text, e.2)) with
  | error f =>
      left
      refine ⟨f, fun model => ?_⟩
      rw [options, assigned]
      rfl
  | ok o =>
      by_cases callable : o.accept.isCallable = true
      · right
        refine ⟨o, fun model => ?_⟩
        rw [options, assigned]
        exact if_pos callable
      · left
        refine ⟨.configuration .noAcceptCallback, fun model => ?_⟩
        rw [options, assigned]
        exact if_neg callable

/-- Whether a form can be opened at all does not depend on the model. -/
theorem runIn_open_cases (d : FormDefinition) {given : Given}
    (hgiven : ∀ e ∈ given, e.1 ≠ .model) (validators : Table HookSource) (w : World) :
    (∃ f w', ∀ model values, (Session.open (.definition { d with model := model } given [] values
      validators)).runIn w = (.error f, w')) ∨
    ∃ (o : FormOptions) (w' : World), ∀ model values, (Session.open (.definition { d with model := model } given [] values
      validators)).runIn w = (buildFields (if values.truthy then values else .map []) validators
        d.fields).runIn (openedIn w' { o with model := .map model }) := by
  obtain ⟨hooks, n, taken, names⟩ := runIn_takeGiven given w
  have hhooks : ∀ e ∈ hooks, e.1 ≠ .model := by
    intro e he
    obtain ⟨g, hg, same⟩ := List.mem_map.mp (names ▸ List.mem_map_of_mem he)
    rw [← same]
    exact hgiven g hg
  rcases exists_optionsOf d (ne_model_of_mem_accepting hhooks) with ⟨f, refused⟩ | ⟨o, opened⟩
  · left
    refine ⟨f, { w with functions := n }, fun model values => ?_⟩
    rw [runIn_open_of_taken _ taken, refused]
  · right
    refine ⟨o, { w with functions := n }, fun model values => ?_⟩
    rw [runIn_open_of_taken _ taken, opened]
    rfl

/-! ## The two ways -/

/-- The values that a form reports when it has been opened from a definition. -/
def valuesOf (d : FormDefinition) (given : Given) (validators : Table HookSource)
    (values : Value) : FormM (Table Value) := do
  Session.open (.definition d given [] values validators)
  Form.values

/-- Both fail, or both give the same. -/
def Agree {α : Type} : Outcome α → Outcome α → Prop
  | .ok a, .ok b => a = b
  | .error _, .error _ => True
  | _, _ => False

/-- What a form reports when definitions have been built into it, if they can be. -/
theorem runIn_buildFields_values {w : World} {model : Table Value}
    (hmodel : w.form.options.model = .map model) (nothing : w.form.fields = .empty)
    (given : Table Value) (validators : Table HookSource) (ds : List FieldDefinition) :
    ((∀ d ∈ ds, d.Joins w.registries model given) ∧
      ((do buildFields (.map given) validators ds; Form.values).runIn w).1 =
        .ok ((fieldsOf w.registries w.objects.length ds).keys.map fun k =>
          (k, readingOf ((ds.filter (·.name.same k)).map (·.valueIn model given))))) ∨
    ((¬ ∀ d ∈ ds, d.Joins w.registries model given) ∧
      ∃ f, ((do buildFields (.map given) validators ds; Form.values).runIn w).1 = .error f) := by
  rcases runIn_buildFields_cases given validators hmodel ds with
    ⟨joins, w', assembled, built⟩ | ⟨not, f, w', failed⟩
  · left
    obtain ⟨w'', -, collected⟩ := Form.runIn_values w'
    have readings := assembled.readings (fun d hd => (joins d hd).isKey) nothing
    refine ⟨joins, ?_⟩
    rw [runIn_bind_ok built, collected, readings]
  · right
    refine ⟨not, f, ?_⟩
    rw [runIn_bind_error failed]

section Opened

variable {d : FormDefinition} {given : Given} {validators : Table HookSource} {w w' : World}
  {o : FormOptions}
  (opened : ∀ model values, (Session.open (.definition { d with model := model } given [] values
    validators)).runIn w = (buildFields (if values.truthy then values else .map []) validators
      d.fields).runIn (openedIn w' { o with model := .map model }))

include opened

/-- A form that can be opened reports what its definitions hold, if they join. -/
theorem runIn_valuesOf_cases (model taken : Table Value) (values : Value)
    (same : (if values.truthy then values else .map []) = .map taken) :
    ((∀ f ∈ d.fields, f.Joins w'.registries.withBuiltins model taken) ∧
      ((valuesOf { d with model := model } given validators values).runIn w).1 =
        .ok ((fieldsOf w'.registries.withBuiltins w'.objects.length d.fields).keys.map fun k =>
          (k, readingOf ((d.fields.filter (·.name.same k)).map (·.valueIn model taken))))) ∨
    ((¬ ∀ f ∈ d.fields, f.Joins w'.registries.withBuiltins model taken) ∧
      ∃ f, ((valuesOf { d with model := model } given validators values).runIn w).1 =
        .error f) := by
  have reported := runIn_buildFields_values (model_openedIn w' o (.map model))
    (fields_openedIn w' _) taken validators d.fields
  rw [registries_openedIn, objects_openedIn] at reported
  rw [valuesOf, runIn_bind, opened, same, ← runIn_bind]
  exact reported

/-- Where nothing fails without values and the model can be stored, the two ways agree if fields of
files can hold theirs and take no mappings for files. -/
theorem agree_iff_of_stores {v : Table Value}
    (begins : ∀ f ∈ d.fields, f.Joins w'.registries.withBuiltins [] [])
    (stores : ∀ f ∈ d.fields, ∀ x, v.find? f.name = some x → f.kind = .file → x.truthy = true →
      ∃ members, x.members? = some members) :
    Agree ((valuesOf { d with model := v } given validators .null).runIn w).1
        ((valuesOf { d with model := [] } given validators (.map v)).runIn w).1 ↔
      ∀ f ∈ d.fields, f.kind = .file → ∀ x, v.find? f.name = some x → x.HoldsFiles ∧
        (d.fields.filter (·.name.same f.name) = [f] →
          ∀ members, x.members? = some members → ∀ m ∈ members, ¬ m.IsMapping) := by
  have sameValues : (if (Value.map v).truthy then Value.map v else .map []) = .map v := by
    cases v <;> rfl
  rcases runIn_valuesOf_cases opened v [] .null rfl with ⟨-, byModel⟩ | ⟨cannot, -⟩
  · rcases runIn_valuesOf_cases opened [] v _ sameValues with ⟨joins, byValues⟩ | ⟨cannot, e, failed⟩
    · have holds := (FieldDefinition.forall_joins_given_iff.mp joins).2
      rw [byModel, byValues, Agree, map_readingOf_eq_iff fun f hf => (begins f hf).isKey]
      constructor
      · intro same f hf kind x found
        refine ⟨holds f hf x found kind, fun alone => ?_⟩
        exact (FieldDefinition.valueIn_eq_iff (holds f hf)).mp (same f hf alone) x found kind
      · intro all f hf alone
        refine (FieldDefinition.valueIn_eq_iff (holds f hf)).mpr fun x found kind => ?_
        exact (all f hf kind x found).2 alone
    · rw [byModel, failed]
      refine iff_of_false id fun all =>
        cannot (FieldDefinition.forall_joins_given_iff.mpr ⟨begins, ?_⟩)
      intro f hf x found kind
      exact (all f hf kind x found).1
  · exact absurd (FieldDefinition.forall_joins_model_iff.mpr ⟨begins, stores⟩) cannot

/-- Where something fails without values, or the model cannot be stored, both ways fail. -/
theorem agree_of_not_joins {v : Table Value}
    (not : ¬ ∀ f ∈ d.fields, f.Joins w'.registries.withBuiltins v []) :
    Agree ((valuesOf { d with model := v } given validators .null).runIn w).1
      ((valuesOf { d with model := [] } given validators (.map v)).runIn w).1 := by
  have sameValues : (if (Value.map v).truthy then Value.map v else .map []) = .map v := by
    cases v <;> rfl
  rcases runIn_valuesOf_cases opened v [] .null rfl with ⟨joins, -⟩ | ⟨-, e, byModel⟩
  · exact absurd joins not
  rcases runIn_valuesOf_cases opened [] v _ sameValues with ⟨joins, -⟩ | ⟨-, e', byValues⟩
  · -- What no model can hold is no value for files either.
    obtain ⟨begins, holds⟩ := FieldDefinition.forall_joins_given_iff.mp joins
    refine absurd (FieldDefinition.forall_joins_model_iff.mpr ⟨begins, ?_⟩) not
    intro f hf x found kind
    exact (holds f hf x found kind).exists_members
  · rw [byModel, byValues]
    trivial

end Opened

/-- **When a model and given values come to the same.**  Both ways fail if the form cannot be opened
without any values, or a field of files is to hold what counts and has no members.  Else they agree
exactly if each field of files can hold its files, and no field that is alone under its name is to
take mappings for files. -/
theorem agree_iff (d : FormDefinition) (v : Table Value) {given : Given}
    (hgiven : ∀ e ∈ given, e.1 ≠ .model) (validators : Table HookSource) (w : World) :
    Agree ((valuesOf { d with model := v } given validators .null).runIn w).1
        ((valuesOf { d with model := [] } given validators (.map v)).runIn w).1 ↔
      (∃ f, ((valuesOf { d with model := [] } given validators .null).runIn w).1 = .error f) ∨
      (∃ f ∈ d.fields, f.kind = .file ∧
        ∃ x, v.find? f.name = some x ∧ x.truthy = true ∧ x.members? = none) ∨
      ∀ f ∈ d.fields, f.kind = .file → ∀ x, v.find? f.name = some x → x.HoldsFiles ∧
        (d.fields.filter (·.name.same f.name) = [f] →
          ∀ members, x.members? = some members → ∀ m ∈ members, ¬ m.IsMapping) := by
  rcases runIn_open_cases d hgiven validators w with ⟨f, w', refused⟩ | ⟨o, w', opened⟩
  · have fails (model : Table Value) (values : Value) :
        ((valuesOf { d with model := model } given validators values).runIn w).1 = .error f := by
      rw [valuesOf, runIn_bind_error (refused model values)]
    rw [fails, fails]
    exact iff_of_true trivial (.inl ⟨f, fails _ _⟩)
  rcases runIn_valuesOf_cases opened [] [] .null rfl with ⟨begins, opens⟩ | ⟨cannot, f, failed⟩
  · have notFirst : ¬ ∃ f, ((valuesOf { d with model := [] } given validators .null).runIn w).1 =
        .error f := by
      rintro ⟨f, failed⟩
      cases opens.symm.trans failed
    rw [or_iff_right notFirst]
    by_cases unfit : ∃ f ∈ d.fields, f.kind = .file ∧
        ∃ x, v.find? f.name = some x ∧ x.truthy = true ∧ x.members? = none
    · refine iff_of_true (agree_of_not_joins opened fun joins => ?_) (.inl unfit)
      obtain ⟨f, hf, kind, x, found, counts, none⟩ := unfit
      obtain ⟨_, some⟩ := (FieldDefinition.forall_joins_model_iff.mp joins).2 f hf x found kind counts
      cases none.symm.trans some
    · rw [or_iff_right unfit]
      refine agree_iff_of_stores opened begins fun f hf x found kind counts => ?_
      by_contra absent
      have none : x.members? = none :=
        Option.eq_none_iff_forall_ne_some.mpr fun members some => absent ⟨members, some⟩
      exact unfit ⟨f, hf, kind, x, found, counts, none⟩
  · refine iff_of_true (agree_of_not_joins opened fun joins => ?_) (.inl ⟨f, failed⟩)
    exact cannot (FieldDefinition.forall_joins_model_iff.mp joins).1

/-! ## A file in a model -/

/-- A form with a field of files. -/
def portrait : FormDefinition where
  name := .str "signup"
  fields := [⟨.str "avatar", .file, .null, .null, .null⟩]
  errorHelp := .null
  validateOnEvent := .null
  model := []

/-- A file for that field, as a data file names it. -/
def portraits : Table Value := [(.str "avatar", .list [.map [(.str "name", .str "a.png")]])]

/-- The model keeps the mapping, and a given value is taken for a file. -/
theorem portrait_disagrees :
    (∀ e ∈ ([(.accept, .script 0)] : Given), e.1 ≠ .model) ∧
      ((valuesOf { portrait with model := portraits } [(.accept, .script 0)] [] .null).runIn
          (Session.world .builtin)).1 =
        .ok [(.str "avatar", .tuple [.map [(.str "name", .str "a.png")]])] ∧
      ((valuesOf { portrait with model := [] } [(.accept, .script 0)] []
          (.map portraits)).runIn (Session.world .builtin)).1 =
        .ok [(.str "avatar", .tuple [.file (.str "a.png") (.int 0) (.str "")])] ∧
      ¬ Agree ((valuesOf { portrait with model := portraits } [(.accept, .script 0)] []
            .null).runIn (Session.world .builtin)).1
          ((valuesOf { portrait with model := [] } [(.accept, .script 0)] []
            (.map portraits)).runIn (Session.world .builtin)).1 := by
  have hgiven : ∀ e ∈ ([(.accept, .script 0)] : Given), e.1 ≠ .model := by decide
  refine ⟨hgiven, rfl, rfl, fun agree => ?_⟩
  have opens : ((valuesOf { portrait with model := [] } [(.accept, .script 0)] [] .null).runIn
      (Session.world .builtin)).1 = .ok [(.str "avatar", .tuple [])] := rfl
  have field : (⟨.str "avatar", .file, .null, .null, .null⟩ : FieldDefinition) ∈ portrait.fields :=
    List.mem_singleton_self _
  rcases (agree_iff portrait portraits hgiven [] (Session.world .builtin)).mp agree with
    ⟨f, failed⟩ | ⟨f, hf, -, x, found, -, none⟩ | all
  · cases opens.symm.trans failed
  · obtain rfl := List.mem_singleton.mp hf
    obtain rfl := Option.some.inj found
    cases none
  · have mappings := (all _ field rfl _ rfl).2 rfl _ rfl _ (List.mem_singleton_self _)
    exact mappings ⟨_, rfl⟩

end Session

end FormRules
