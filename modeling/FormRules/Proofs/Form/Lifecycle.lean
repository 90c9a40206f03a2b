/-
# Lifecycle — fields that come, change and go

A field is an object that a client keeps changing, its name included.  A registration stands under
the name that the field had when it came; unregistering looks under the name that it has now.

    step                          the ledger of live registrations
    register f, it is admitted    one more, of `f` under its present name
    register f, it is refused     as before
    unregister f                  without those of `f` under its present name
    anything else                 as before, whatever it makes of the fields

So a field that goes under another name than it came with stays registered, and passes go on
validating it.  `unregisterField_leaves` says what is left after any steps: the registrations of
other fields as they were, and those of the field itself that came with another name.  If there are
none of those, then no pass can tell what has become of the field, until it is registered again.
-/
import FormRules.Proofs.Form.Filling
import FormRules.Proofs.Form.Overlooking

namespace FormRules

open FormM

/-! ## Tables and ledgers -/

namespace Ledger

/-- The ledger after an attempt to register a field. -/
def joining (live : Ledger) (w : World) (id : FieldId) : Ledger :=
  match w.chainOf (w.field id) with
  | .ok chain =>
      if (w.field id).name.truthy && (w.field id).name.isKey then
        live ++ [((w.field id).name, ⟨id, chain⟩)]
      else live
  | .error _ => live

theorem joining_of_admits {live : Ledger} {w : World} {id : FieldId} (h : w.Admits id)
    {chain : Option Chain} (compiled : w.chainOf (w.field id) = .ok chain) :
    live.joining w id = live ++ [((w.field id).name, ⟨id, chain⟩)] := by
  rw [joining, compiled]
  simp [h.full, h.isKey]

theorem joining_of_not_admits {live : Ledger} {w : World} {id : FieldId} (h : ¬ w.Admits id) :
    live.joining w id = live := by
  unfold joining
  split
  · rename_i chain compiled
    split
    · rename_i named
      obtain ⟨full, isKey⟩ := Bool.and_eq_true_iff.mp named
      exact absurd ⟨full, isKey, chain, compiled⟩ h
    · rfl
  · rfl

end Ledger

namespace FieldTable

/-- The registrations under a name, in order. -/
def registrations (t : FieldTable) (name : Value) : List Entry := (t.buckets.find? name).getD []

variable {t : FieldTable} {live : Ledger} {id : FieldId}

/-- A field is registered under no name exactly if none of its registrations is live. -/
theorem Shows.without_iff (h : t.Shows live) (keys : ∀ e ∈ live, e.1.isKey = true) :
    t.Without id ↔ ∀ e ∈ live, e.2.field ≠ id := by
  constructor
  · intro without e he
    have under : e.2 ∈ live.under e.1 :=
      List.mem_map_of_mem (List.mem_filter.mpr ⟨he, Value.same_self e.1⟩)
    rw [← h e.1 (keys e he)] at under
    cases found : t.buckets.find? e.1 with
    | none =>
        rw [found] at under
        cases under
    | some entries =>
        rw [found] at under
        obtain ⟨key, hkey, -⟩ := Table.mem_of_find? found
        exact without _ hkey e.2 under
  · intro none b hb e he
    have shown := h b.1 (t.isKey b hb)
    rw [Table.find?_of_mem t.distinct hb] at shown
    have under : e ∈ live.under b.1 := shown ▸ he
    obtain ⟨⟨name, e'⟩, listed, rfl⟩ := List.mem_map.mp under
    exact none _ (List.mem_filter.mp listed).1

end FieldTable

/-! ## Lifecycles -/

/-- A lifecycle of fields on a form that had none: the world that it has led to, and the live
registrations.  Between the calls anything may happen that leaves the table alone; in particular
fields may be changed in any way. -/
inductive Lifecycle : World → Ledger → Prop
  | start {w : World} (nothing : w.form.fields = .empty) : Lifecycle w []
  | aside {w w' : World} {live : Ledger} (before : Lifecycle w live)
      (same : w'.form.fields = w.form.fields) : Lifecycle w' live
  | register {w w' : World} {live : Ledger} {outcome : Outcome Unit} (before : Lifecycle w live)
      (id : FieldId) (ran : (Form.registerField id).runIn w = (outcome, w')) :
      Lifecycle w' (live.joining w id)
  | unregister {w w' : World} {live : Ledger} {outcome : Outcome Unit} (before : Lifecycle w live)
      (id : FieldId) (ran : (Form.unregisterField id).runIn w = (outcome, w')) :
      Lifecycle w' (live.leaving id (w.field id).name)

namespace Form

variable {w w' : World} {id : FieldId} {outcome : Outcome Unit}

/-- A field that is admitted is in the table from then on, whether or not it can be filled. -/
theorem fields_of_registerField (h : w.Admits id)
    (ran : (registerField id).runIn w = (outcome, w')) :
    ∃ chain, w.chainOf (w.field id) = .ok chain ∧
      w'.form.fields = w.form.fields.add (w.field id).name ⟨id, chain⟩ := by
  obtain ⟨chain, w₁, compiled, reports, added⟩ := runIn_addField_of_admits h
  have fields : w₁.form.fields = w.form.fields.add (w.field id).name ⟨id, chain⟩ := by
    rw [reports.form]
    rfl
  rw [runIn_registerField_of_runIn_addField added] at ran
  refine ⟨chain, compiled, ?_⟩
  cases filled : w₁.filled (w₁.field id) with
  | ok f =>
      rw [filled] at ran
      obtain ⟨-, rfl⟩ := Prod.mk.inj ran
      exact fields
  | error f =>
      rw [filled] at ran
      obtain ⟨-, rfl⟩ := Prod.mk.inj ran
      exact fields

theorem unchanged_of_registerField (h : ¬ w.Admits id)
    (ran : (registerField id).runIn w = (outcome, w')) : w' = w := by
  obtain ⟨f, refused⟩ := runIn_addField_of_not_admits h
  have failed : (registerField id).runIn w = (.error f, w) := runIn_bind_error refused
  exact (Prod.mk.inj (ran.symm.trans failed)).2

end Form

namespace Lifecycle

variable {w : World} {live : Ledger}

/-- After any steps the table shows the live registrations. -/
theorem shows (life : Lifecycle w live) :
    w.form.fields.Shows live ∧ ∀ e ∈ live, e.1.isKey = true := by
  induction life with
  | start nothing =>
      rw [nothing]
      exact ⟨.empty, nofun⟩
  | aside _ same ih =>
      rw [same]
      exact ih
  | @register w _ live _ _ id ran ih =>
      obtain ⟨shown, keys⟩ := ih
      by_cases admits : w.Admits id
      · obtain ⟨chain, compiled, fields⟩ := Form.fields_of_registerField admits ran
        rw [Ledger.joining_of_admits admits compiled, fields]
        refine ⟨shown.add admits.isKey _, fun e he => ?_⟩
        rcases List.mem_append.mp he with he | he
        · exact keys e he
        · obtain rfl := List.mem_singleton.mp he
          exact admits.isKey
      · rw [Ledger.joining_of_not_admits admits, Form.unchanged_of_registerField admits ran]
        exact ⟨shown, keys⟩
  | @unregister w _ live _ _ id ran ih =>
      obtain ⟨shown, keys⟩ := ih
      refine ⟨?_, fun e he => keys e (List.mem_filter.mp he).1⟩
      rw [Form.runIn_unregisterField] at ran
      split at ran
      · rename_i hname
        obtain ⟨-, rfl⟩ := Prod.mk.inj ran
        exact shown.leave hname id
      · rename_i hname
        obtain ⟨-, rfl⟩ := Prod.mk.inj ran
        -- No registration came with a name that cannot be looked up.
        have all : live.leaving id (w.field id).name = live := by
          refine List.filter_eq_self.mpr fun e he => ?_
          have other : e.1.same (w.field id).name = false := by
            by_contra same
            exact hname (Value.isKey_of_same e.1 _ (by simpa using same) (keys e he))
          simp [other]
        rw [all]
        exact shown

/-- A field without live registrations is registered under no name, and the other way round. -/
theorem without_iff (life : Lifecycle w live) {id : FieldId} :
    w.form.fields.Without id ↔ ∀ e ∈ live, e.2.field ≠ id :=
  life.shows.1.without_iff life.shows.2

end Lifecycle

namespace Ledger

/-- All registrations of a field are gone exactly if each came with the name it goes under. -/
theorem leaving_lacks_iff {live : Ledger} {id : FieldId} {name : Value} :
    (∀ e ∈ live.leaving id name, e.2.field ≠ id) ↔
      ∀ e ∈ live, e.2.field = id → e.1.same name = true := by
  constructor
  · intro none e he own
    by_contra other
    have kept : e ∈ live.leaving id name := List.mem_filter.mpr ⟨he, by simp [other]⟩
    exact none e kept own
  · intro all e he own
    obtain ⟨listed, kept⟩ := List.mem_filter.mp he
    rw [all e listed own, own] at kept
    simp at kept

end Ledger

namespace Form

/-- **What unregistering a field leaves**, after any registrations, unregistrations and changes of
fields.  Under each name are the registrations that were there, without those of the field if that
is its present name.  So the field is gone exactly if all its live registrations came with the name
it has now.  As long as it has no live registration, passes and submissions by a client that
overlooks it do the same whatever has become of the field. -/
theorem unregisterField_leaves {w : World} {live : Ledger} (life : Lifecycle w live)
    (id : FieldId) :
    ∃ outcome w', (unregisterField id).runIn w = (outcome, w') ∧
      (∀ key, key.isKey = true → w'.form.fields.registrations key =
        (w.form.fields.registrations key).filter
          fun e => !(e.field == id && key.same (w.field id).name)) ∧
      (w'.form.fields.Without id ↔
        ∀ e ∈ live, e.2.field = id → e.1.same (w.field id).name = true) ∧
      ∀ u later, Lifecycle u later → (∀ e ∈ later, e.2.field ≠ id) →
        u.form.fields.Without id ∧
          ∀ call : Caller, (∀ f args, Overlooks id (call f args)) →
            u.Hides id values ∧ (∀ name, u.Hides id (validateField call name)) ∧
              u.Hides id (validate call) ∧ u.Hides id (submit call) := by
  rcases ran : (unregisterField id).runIn w with ⟨outcome, w'⟩
  have after : Lifecycle w' (live.leaving id (w.field id).name) := life.unregister id ran
  refine ⟨outcome, w', rfl, ?_, ?_, ?_⟩
  · intro key hkey
    show (w'.form.fields.buckets.find? key).getD [] = _
    rw [after.shows.1 key hkey, Ledger.under_leaving hkey, ← life.shows.1 key hkey]
    rfl
  · rw [after.without_iff]
    exact Ledger.leaving_lacks_iff
  · intro u later life' none
    have without : u.form.fields.Without id := life'.without_iff.mpr none
    refine ⟨without, fun call hcall => ⟨?_, fun name => ?_, ?_, ?_⟩⟩
    · exact (values_overlooks u without).2
    · exact (validateField_overlooks hcall name u without).2
    · exact (validate_overlooks hcall u without).2
    · exact (submit_overlooks hcall u without).2

/-! ## A field that goes under another name -/

/-- The registration of a required field. -/
def requiredEntry : Entry := ⟨0, some ⟨[⟨"required", false, []⟩], .standard⟩⟩

/-- The field before it is registered. -/
def mounting : World :=
  { World.initial .builtin (.ofOptions { FormOptions.default with accept := .ignore }) with
    objects := [{ (default : Field) with name := .str "a", rules := .str "required" }] }

/-- The field has been registered, and then got another name. -/
def renamed : World :=
  { mounting.registering (.str "a") requiredEntry with
    objects := [{ (default : Field) with name := .str "b", rules := .str "required" }] }

theorem lifecycle_renamed : Lifecycle renamed [(.str "a", requiredEntry)] := by
  have compiled : mounting.chainOf (mounting.field 0) = .ok requiredEntry.chain := by rfl
  have admits : mounting.Admits 0 := ⟨rfl, rfl, _, compiled⟩
  rcases ran : (registerField 0).runIn mounting with ⟨outcome, w'⟩
  obtain ⟨chain, compiled', fields⟩ := fields_of_registerField admits ran
  obtain rfl : requiredEntry.chain = chain := Except.ok.inj (compiled.symm.trans compiled')
  have registered : Lifecycle w' (Ledger.joining [] mounting 0) := .register (.start rfl) 0 ran
  rw [Ledger.joining_of_admits admits compiled] at registered
  exact registered.aside fields.symm

/-- The field is unregistered, and yet it is validated, and fails.  Before it was registered, no
submission could tell what it is like. -/
theorem renamed_stays :
    (∃ w', (unregisterField 0).runIn renamed = (.ok (), w') ∧ ¬ w'.form.fields.Without 0 ∧
      ((validate .idle).runIn w').1 = .ok ⟨false, [.str "a"]⟩) ∧
      mounting.Hides 0 (submit .idle) := by
  obtain ⟨outcome, w', ran, -, gone, overlooked⟩ := unregisterField_leaves lifecycle_renamed 0
  have unregistered : (unregisterField 0).runIn renamed = (.ok (), renamed.changing fun f =>
      { f with fields := f.fields.remove (.str "b") 0 }) := by rfl
  obtain ⟨rfl, rfl⟩ := Prod.mk.inj (unregistered.symm.trans ran)
  refine ⟨⟨_, ran, ?_, rfl⟩, ?_⟩
  · rw [gone]
    intro all
    cases all _ List.mem_cons_self rfl
  · obtain ⟨-, passes⟩ := overlooked mounting [] (.start rfl) nofun
    obtain ⟨-, -, -, submitting⟩ := passes .idle fun _ _ => .pure _
    exact submitting

end Form

end FormRules
