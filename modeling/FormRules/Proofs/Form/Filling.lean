/-
# Filling — what is left of a registration that fails

Registering a field on a form takes two steps: the field is added to the registered ones, and then
it is filled from the model.  Each can fail.

    step       needs                                                            else
    adding     a name that counts and can be looked up, rules that compile      nothing has happened
    filling    a model that can be asked for the name, and that has nothing     the field stays
               for it or something that the field can hold                      registered

The first step compiles before it adds, so that it does all or nothing.  The second step comes
after the first and takes nothing back: if it fails, then the field is registered all the same, with
its compiled rules and the value that it had, and takes part in what follows
(`registerField_leaves`).  A mapping fails to fill a field only if that is a field of files and is
to hold what counts but has no members (`fills_iff_of_map`).
-/
import FormRules.Proofs.Session.Building

namespace FormRules

open FormM

namespace World

/-- A field can be added to the registered ones: it has a name that can be looked up, and its rules
compile. -/
structure Admits (w : World) (id : FieldId) : Prop where
  full : (w.field id).name.truthy = true
  isKey : (w.field id).name.isKey = true
  compiles : ∃ chain, w.chainOf (w.field id) = .ok chain

/-- A field as the model fills it. -/
def filled (w : World) (f : Field) : Outcome Field := do
  if ← w.form.options.model.hasItem f.name then f.store (← w.form.options.model.item f.name)
  else .ok f

/-- The model can fill a field. -/
def Fills (w : World) (id : FieldId) : Prop := ∃ f, w.filled (w.field id) = .ok f

theorem setField_self (w : World) (id : FieldId) : w.setField id (w.field id) = w := by
  have objects : w.objects.set id (w.field id) = w.objects := by
    apply List.ext_getElem?
    intro n
    by_cases here : id = n
    · subst here
      by_cases bound : id < w.objects.length
      · simp [field, bound]
      · simp [bound]
    · simp [here]
  rw [setField, objects]

theorem Reports.filled {w w' : World} (h : w.Reports w') : w'.filled = w.filled := by
  funext f
  rw [World.filled, World.filled, h.form]

/-- Adding a field changes nothing that filling it depends on. -/
theorem filled_registering (w : World) (name : Value) (e : Entry) :
    (w.registering name e).filled = w.filled := rfl

/-- A mapping has nothing for a field, or something that its kind holds. -/
theorem filled_eq_of_map {w : World} {entries : Table Value} {f : Field}
    (hmodel : w.form.options.model.opened = .map entries) (hname : f.name.isKey = true) :
    w.filled f = match entries.find? f.name with
      | some v => (f.kind.holding v).map f.withCurrent
      | none => .ok f := by
  have has : w.form.options.model.hasItem f.name = .ok (Table.contains entries f.name) := by
    simp [Value.hasItem, hmodel, hname]
  rw [filled, has, ok_bind, Table.contains]
  cases found : entries.find? f.name with
  | none => rfl
  | some v =>
      have item : w.form.options.model.item f.name = .ok v := by
        simp [Value.item, hmodel, hname, found]
      rw [item]
      exact f.store_eq v

end World

/-- A field of a kind can hold anything, unless it is one of files and what counts has no
members. -/
theorem FieldKind.exists_holding_iff {kind : FieldKind} {v : Value} :
    (∃ u, kind.holding v = .ok u) ↔
      (kind = .file → v.truthy = true → ∃ members, v.members? = some members) := by
  cases kind with
  | file =>
      unfold holding
      by_cases counts : v.truthy = true
      · rw [if_pos counts, Value.members]
        cases v.members? with
        | none => simp [counts, Except.map]
        | some members => simp [Except.map]
      · rw [if_neg counts]
        exact iff_of_true ⟨_, rfl⟩ fun _ yes => absurd yes counts
  | text | checkbox | other => exact iff_of_true ⟨_, rfl⟩ nofun

theorem World.fills_iff_of_map {w : World} {id : FieldId} {entries : Table Value}
    (hmodel : w.form.options.model.opened = .map entries)
    (hname : (w.field id).name.isKey = true) :
    w.Fills id ↔ ∀ v, entries.find? (w.field id).name = some v → (w.field id).kind = .file →
      v.truthy = true → ∃ members, v.members? = some members := by
  rw [Fills, filled_eq_of_map hmodel hname]
  cases entries.find? (w.field id).name with
  | none => exact iff_of_true ⟨_, rfl⟩ nofun
  | some v =>
      simp only [map_eq_ok_iff, Option.some.injEq, forall_eq']
      rw [← FieldKind.exists_holding_iff]
      exact ⟨fun ⟨_, u, held, _⟩ => ⟨u, held⟩, fun ⟨u, held⟩ => ⟨_, u, held, rfl⟩⟩

namespace Form

variable {w : World} {id : FieldId}

/-- A field that can be added is registered behind the others of its name. -/
theorem runIn_addField_of_admits (h : w.Admits id) :
    ∃ chain w', w.chainOf (w.field id) = .ok chain ∧
      (w.registering (w.field id).name ⟨id, chain⟩).Reports w' ∧
      (addField id).runIn w = (.ok (), w') := by
  obtain ⟨chain, compiled⟩ := h.compiles
  have compiling : (compileRules (w.field id)).runIn w = (.ok chain, w) := by
    rw [runIn_compileRules_eq, compiled]
  obtain ⟨w', reports, added⟩ := runIn_addField rfl h.isKey h.full compiling
  exact ⟨chain, w', compiled, reports, added⟩

/-- Any other field is refused, and then nothing has happened. -/
theorem runIn_addField_of_not_admits (h : ¬ w.Admits id) :
    ∃ f, (addField id).runIn w = (.error f, w) := by
  rcases addField_cases id w with refused | ⟨chain, w', compiled, hname, -, added⟩
  · exact refused
  · have empty : ¬ (w.field id).name.truthy = true := fun full => h ⟨full, hname, chain, compiled⟩
    simp [addField, runIn_bind, empty] at added

/-- A field that has been added is filled from the model, if the model can do that. -/
theorem runIn_registerField_of_runIn_addField {w₁ : World}
    (added : (addField id).runIn w = (.ok (), w₁)) :
    (registerField id).runIn w = match w₁.filled (w₁.field id) with
      | .ok f => (.ok (), w₁.setField id f)
      | .error f => (.error f, w₁) := by
  rw [registerField, runIn_bind_ok added]
  unfold World.filled
  cases has : w₁.form.options.model.hasItem (w₁.field id).name with
  | error f => simp [runIn_bind, has, error_bind]
  | ok there =>
      cases there with
      | false =>
          simp [runIn_bind, has, ok_bind, w₁.setField_self]
      | true =>
          cases item : w₁.form.options.model.item (w₁.field id).name with
          | error f => simp [runIn_bind, has, item, ok_bind, error_bind]
          | ok v =>
              cases stored : (w₁.field id).store v <;>
                simp [runIn_bind, has, item, stored, ok_bind]

/-- A registration more is there to be found. -/
theorem find?_registering (w : World) {name : Value} (hname : name.isKey = true) (e : Entry) :
    (w.registering name e).form.fields.buckets.find? name =
      some ((w.form.fields.buckets.find? name).getD [] ++ [e]) := by
  show (w.form.fields.add name e).buckets.find? name = _
  rw [FieldTable.buckets_add hname, Table.find?_put_self]

/-- **What is left of a registration that fails.**  Registering a field fails if the field cannot be
added, or the model cannot fill it.  The form is as it was exactly in the first case.  In the second
case the field stays registered behind the others of its name, and nothing else has changed. -/
theorem registerField_leaves (id : FieldId) (w : World) :
    ∃ outcome w', (registerField id).runIn w = (outcome, w') ∧
      (outcome = .ok () ↔ w.Admits id ∧ w.Fills id) ∧
      (∀ f, outcome = .error f → (w' = w ↔ ¬ w.Admits id)) ∧
      (w.Admits id → ¬ w.Fills id → ∃ chain, w.chainOf (w.field id) = .ok chain ∧
        (w.registering (w.field id).name ⟨id, chain⟩).Reports w' ∧
        w'.form.fields.buckets.find? (w.field id).name =
          some ((w.form.fields.buckets.find? (w.field id).name).getD [] ++ [⟨id, chain⟩])) := by
  by_cases admits : w.Admits id
  · obtain ⟨chain, w₁, compiled, reports, added⟩ := runIn_addField_of_admits admits
    have field₁ : w₁.field id = w.field id := congrFun reports.field id
    have filling : w₁.filled = w.filled := reports.filled.trans (w.filled_registering _ _)
    have found : w₁.form.fields.buckets.find? (w.field id).name =
        some ((w.form.fields.buckets.find? (w.field id).name).getD [] ++ [⟨id, chain⟩]) := by
      rw [reports.form]
      exact find?_registering w admits.isKey _
    -- There is one more registration of the name than before.
    have changed : w₁ ≠ w := by
      rintro rfl
      have length := congrArg (fun bucket => (bucket.getD []).length) found
      simp at length
    have ran := runIn_registerField_of_runIn_addField added
    rw [field₁, filling] at ran
    cases filled : w.filled (w.field id) with
    | ok f =>
        rw [filled] at ran
        have fills : w.Fills id := ⟨f, filled⟩
        exact ⟨_, _, ran, iff_of_true rfl ⟨admits, fills⟩, nofun, fun _ no => absurd fills no⟩
    | error f =>
        rw [filled] at ran
        have cannot : ¬ w.Fills id := by
          rintro ⟨f', filled'⟩
          cases filled.symm.trans filled'
        refine ⟨_, w₁, ran, iff_of_false nofun fun both => cannot both.2, fun _ _ => ?_, fun _ _ => ?_⟩
        · exact iff_of_false changed (not_not.mpr admits)
        · exact ⟨chain, compiled, reports, found⟩
  · obtain ⟨f, refused⟩ := runIn_addField_of_not_admits admits
    refine ⟨.error f, w, runIn_bind_error refused, ?_, fun _ _ => ?_, fun yes => absurd yes admits⟩
    · exact iff_of_false nofun fun both => admits both.1
    · exact iff_of_true rfl admits

/-! ## A field that is refused, and registered -/

/-- A form whose model has a number for a field of files. -/
def unfillable : World :=
  { World.initial ⟨.empty "standard", .empty "file"⟩
      (ofOptions { FormOptions.default with
        accept := .ignore, model := .map [(.str "avatar", .int 5)] }) with
    objects := [{ (default : Field) with
      name := .str "avatar", kind := .file, rules := .null, files := .tuple [] }] }

theorem admits_unfillable : unfillable.Admits 0 := ⟨rfl, rfl, none, rfl⟩

theorem not_fills_unfillable : ¬ unfillable.Fills 0 := by
  intro fills
  have model : unfillable.form.options.model.opened = .map [(.str "avatar", .int 5)] := rfl
  obtain ⟨members, found⟩ :=
    (World.fills_iff_of_map model rfl).mp fills (.int 5) rfl rfl rfl
  cases found

/-- Registering the field fails, and yet the form has it from then on. -/
theorem unfillable_stays :
    ∃ f w', (registerField 0).runIn unfillable = (.error f, w') ∧
      unfillable.form.fields.keys = [] ∧ w' ≠ unfillable ∧
      w'.form.fields.buckets.find? (.str "avatar") = some [⟨0, none⟩] ∧
      w'.readings.find? (.str "avatar") = some (.tuple []) := by
  obtain ⟨outcome, w', ran, succeeds, unchanged, leaves⟩ := registerField_leaves 0 unfillable
  obtain ⟨chain, compiled, reports, found⟩ := leaves admits_unfillable not_fills_unfillable
  obtain rfl : none = chain := Except.ok.inj compiled
  cases outcome with
  | ok done => exact absurd (succeeds.mp rfl).2 not_fills_unfillable
  | error f =>
      have changed : w' ≠ unfillable := fun same =>
        (unchanged f rfl).mp same admits_unfillable
      refine ⟨f, w', ran, rfl, changed, found, ?_⟩
      rw [World.readings, reports.form, reports.reading]
      rfl

end Form

end FormRules
