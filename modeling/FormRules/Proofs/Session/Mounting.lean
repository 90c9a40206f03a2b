/-
# Mounting — what is recorded for a field that has just come

Errors are recorded under names, and a name may have belonged to another field before.  Neither
registering nor unregistering a field touches what is recorded.  So if a field has been alone under
a name since some state of the form, then the name has an entry for one of two reasons:

    inherited     it had one before, from a field that is gone
    recorded      a validation has recorded for it since then

`entry_iff_of_mounted` says so for every session.  A validation records for names that it has found
among the registrations, of the form or of a snapshot, but it may have looked before the field came.
A name that was never registered before leaves no room for that: it inherits nothing, and what
records for it is a validation that has found this very field.
-/
import FormRules.Proofs.Session.History
import FormRules.Proofs.Value.Keys

namespace FormRules

open FormM World

namespace FieldTable

variable {t : FieldTable} {key name : Value}

theorem isKey_of_hasName (registered : t.hasName name = .ok true) : name.isKey = true := by
  obtain ⟨k, hk, same⟩ := hasName_iff.mp registered
  exact Value.isKey_of_same k name same (isKey_of_mem_keys hk)

theorem hasName_congr (same : key.same name = true) (registered : t.hasName key = .ok true) :
    t.hasName name = .ok true := by
  obtain ⟨k, hk, found⟩ := hasName_iff.mp registered
  have isKey : key.isKey = true := isKey_of_hasName registered
  exact hasName_iff.mpr ⟨k, hk, Table.same_of_same isKey same k ▸ found⟩

end FieldTable

namespace Form

variable {f g : Form} {name : Value}

/-- Something is recorded for a name. -/
def HasEntry (f : Form) (name : Value) : Prop := ∃ v, f.errors.table.find? name = some v

theorem hasEntry_iff : f.HasEntry name ↔ ∃ k ∈ f.errors.table.keys, k.same name = true := by
  rw [← Table.contains_iff, Table.contains, Option.isSome_iff_exists]
  rfl

theorem HasEntry.of_prefix (h : g.HasEntry name)
    (kept : g.errors.table.keys <+: f.errors.table.keys) : f.HasEntry name := by
  obtain ⟨k, hk, same⟩ := hasEntry_iff.mp h
  exact hasEntry_iff.mpr ⟨k, kept.subset hk, same⟩

theorem HasEntry.of_table (h : f.HasEntry name) (same : f.errors.table = g.errors.table) :
    g.HasEntry name := by
  obtain ⟨v, found⟩ := h
  exact ⟨v, same ▸ found⟩

/-- One of the states `since` has put a value for the name; `rest` are those of them before it. -/
structure PutsSince (name : Value) (since before : List Form) (f : Form) (rest : List Form) :
    Prop where
  place : ∃ later, since = later ++ f :: rest
  puts : ∃ key, key.same name = true ∧ f.PutsFor key (rest ++ before)

namespace PutsSince

variable {since before rest : List Form}

theorem mem (h : PutsSince name since before f rest) : f ∈ since := by
  obtain ⟨later, rfl⟩ := h.place
  exact List.mem_append_right _ List.mem_cons_self

theorem subset (h : PutsSince name since before f rest) : rest ⊆ since := by
  obtain ⟨later, rfl⟩ := h.place
  intro g hg
  exact List.mem_append_right _ (List.mem_cons_of_mem _ hg)

theorem later (h : PutsSince name since before f rest) (first : Form) :
    PutsSince name (first :: since) before f rest := by
  obtain ⟨later, rfl⟩ := h.place
  exact ⟨⟨first :: later, rfl⟩, h.puts⟩

/-- What is recorded for a key is there for every name that is the same. -/
theorem hasEntry (h : PutsSince name since before f rest) (hname : name.isKey = true) :
    f.HasEntry name := by
  obtain ⟨key, same, puts⟩ := h.puts
  cases earlier : rest ++ before with
  | nil =>
      rw [earlier] at puts
      exact puts.elim
  | cons g more =>
      rw [earlier] at puts
      obtain ⟨value, put⟩ := puts
      have same' : name.same key = true := Value.same_comm hname ▸ same
      have hkey : key.isKey = true := Value.isKey_of_same name key same' hname
      refine ⟨value, ?_⟩
      rw [put, ← Table.find?_congr hkey same, Table.find?_put_self]

end PutsSince

/-- The name had an entry before. -/
def Inherited (name : Value) (before : List Form) : Prop := ∃ g ∈ before, g.HasEntry name

/-- A validation has recorded for the name since then; it had found the name among the registrations
of some state. -/
def Recorded (name : Value) (since before : List Form) : Prop :=
  ∃ f rest, PutsSince name since before f rest ∧
    ∃ g ∈ rest ++ before, g.fields.hasName name = .ok true

/-- A validation has recorded for the name since then; it had found the field alone under it. -/
def Validated (name : Value) (e : Entry) (since before : List Form) : Prop :=
  ∃ f rest, PutsSince name since before f rest ∧ ∃ g ∈ rest, g.fields.entry name = .ok e

/-- Where an entry of the latest state comes from. -/
theorem exists_source {before since : List Form}
    (follows : ∀ f earlier, f :: earlier <:+ since ++ before → f.Follows earlier)
    (latest : f ∈ (since ++ before).head?) (h : f.HasEntry name) :
    Inherited name before ∨ Recorded name since before := by
  induction since generalizing f with
  | nil => exact .inl ⟨f, List.mem_of_mem_head? latest, h⟩
  | cons first rest ih =>
      obtain rfl : first = f := Option.some.inj latest
      have follows' : ∀ f earlier, f :: earlier <:+ rest ++ before → f.Follows earlier :=
        fun f earlier suffix => follows f earlier (suffix.trans (List.suffix_cons _ _))
      -- An entry of the state before has come from before, or from one of the other states.
      have passed {g : Form} (next : g ∈ (rest ++ before).head?) (had : g.HasEntry name) :
          Inherited name before ∨ Recorded name (first :: rest) before := by
        rcases ih follows' next had with old | ⟨f, rest', recorded, known⟩
        · exact .inl old
        · exact .inr ⟨f, rest', recorded.later first, known⟩
      have here : first.Follows (rest ++ before) := follows first _ (List.suffix_refl _)
      cases earlier : rest ++ before with
      | nil =>
          rw [earlier] at here
          obtain ⟨v, found⟩ := h
          rw [show first.errors.table = [] from here] at found
          cases found
      | cons g more =>
          rw [earlier] at here passed
          rcases here with unchanged | ⟨key, puts, k, hk, registered⟩
          · exact passed rfl (h.of_table unchanged)
          · by_cases same : key.same name = true
            · rw [← earlier] at puts hk
              exact .inr ⟨first, rest, ⟨⟨[], rfl⟩, key, same, puts⟩, k, hk,
                FieldTable.hasName_congr same registered⟩
            · obtain ⟨value, put⟩ := puts
              have hkey : key.isKey = true := FieldTable.isKey_of_hasName registered
              obtain ⟨v, found⟩ := h
              rw [put, Table.find?_put_of_not_same hkey (by simpa using same)] at found
              exact passed rfl ⟨v, found⟩

end Form

namespace World

variable {w : World} {since before : List Form} {name : Value} {e : Entry}

/-- A name reads as that of a field that was never validated: nothing is recorded for it, and it has
no error. -/
def Unvalidated (w : World) (name : Value) : Prop :=
  (Form.recorded? name).runIn w = (.ok none, w) ∧
    (Form.hasError name).runIn w = (.ok (.bool false), w)

theorem unvalidated_iff (hname : name.isKey = true) :
    w.Unvalidated name ↔ ¬ w.form.HasEntry name := by
  have recorded : (Form.recorded? name).runIn w = (.ok (w.form.errors.table.find? name), w) := by
    simp [Form.recorded?, hname, runIn_map, Except.map]
  rw [Unvalidated, Form.hasError, runIn_bind_ok recorded, recorded]
  unfold Form.HasEntry
  cases w.form.errors.table.find? name with
  | none => exact iff_of_true ⟨rfl, rfl⟩ nofun
  | some v => exact iff_of_false (fun h => nomatch h.1) fun none => none ⟨v, rfl⟩

namespace Sound

/-- No entry that was there in some state is gone. -/
theorem hasEntry_of_mem (h : w.Sound) {g : Form} (hg : g ∈ w.states) (had : g.HasEntry name) :
    w.form.HasEntry name := by
  rcases List.mem_cons.mp hg with rfl | hg
  · exact had
  · exact had.of_prefix (h.present.kept g hg)

/-- A name with an entry in a state before is or was registered by then. -/
theorem exists_hasName (h : w.Sound) (split : w.states = since ++ before)
    (inherited : Form.Inherited name before) :
    ∃ g ∈ before, g.fields.hasName name = .ok true := by
  obtain ⟨g, hg, had⟩ := inherited
  obtain ⟨k, hk, same⟩ := Form.hasEntry_iff.mp had
  obtain ⟨newer, older, rfl⟩ := List.append_of_mem hg
  have suffix : g :: older <:+ w.states := by
    rw [split, ← List.append_assoc]
    exact List.suffix_append _ _
  obtain ⟨f, hf, registered⟩ := (h.accumulates g older suffix).named k hk
  exact ⟨f, List.mem_append_right _ hf, FieldTable.hasName_congr same registered⟩

/-- A name under which a field has been alone has an entry for one of two reasons. -/
theorem hasEntry_iff_of_mounted (h : w.Sound) (split : w.states = since ++ before)
    (mounted : ∀ f ∈ since, f.fields.entry name = .ok e) :
    w.form.HasEntry name ↔ Form.Inherited name before ∨ Form.Recorded name since before := by
  constructor
  · intro had
    have latest : w.form ∈ (since ++ before).head? := by
      rw [← split]
      rfl
    have follows := h.follows
    rw [split] at follows
    exact Form.exists_source follows latest had
  · rintro (⟨g, hg, had⟩ | ⟨f, rest, recorded, -⟩)
    · exact h.hasEntry_of_mem (split ▸ List.mem_append_right _ hg) had
    · have hname : name.isKey = true :=
        FieldTable.isKey_of_hasName (FieldTable.hasName_of_entry (mounted f recorded.mem))
      have put : f ∈ w.states := split ▸ List.mem_append_left _ recorded.mem
      exact h.hasEntry_of_mem put (recorded.hasEntry hname)

/-- A name that was not registered before inherits nothing, and only a validation of the field itself
can have recorded for it. -/
theorem validated_of_fresh (h : w.Sound) (split : w.states = since ++ before)
    (mounted : ∀ f ∈ since, f.fields.entry name = .ok e)
    (fresh : ∀ g ∈ before, g.fields.hasName name ≠ .ok true) :
    Form.Inherited name before ∨ Form.Recorded name since before ↔
      Form.Validated name e since before := by
  constructor
  · rintro (inherited | ⟨f, rest, recorded, g, hg, known⟩)
    · obtain ⟨g, hg, known⟩ := h.exists_hasName split inherited
      exact absurd known (fresh g hg)
    · rcases List.mem_append.mp hg with hg | hg
      · exact ⟨f, rest, recorded, g, hg, mounted g (recorded.subset hg)⟩
      · exact absurd known (fresh g hg)
  · rintro ⟨f, rest, recorded, g, hg, found⟩
    exact .inr ⟨f, rest, recorded, g, List.mem_append_left _ hg,
      FieldTable.hasName_of_entry found⟩

end Sound

end World

namespace Session

variable {behaviour : Behaviour}

/-- **What is recorded for a field that has come.**  The client may do anything but record errors
itself.  If a field has been alone under its name in the states since some moment, then the name has
an entry exactly if it had one before, which it keeps, or a validation has recorded for it since;
otherwise it reads as never validated.  If the name had not been registered before, it has an entry
exactly if the field itself has been validated since. -/
theorem entry_iff_of_mounted (hmakes : behaviour.Makes Request.LeavesErrors) (opening : Opening)
    (registries : Registries) (requests : List Request)
    (hrequests : ∀ r ∈ requests, r.LeavesErrors) {since before : List Form}
    (split : (after behaviour (begun opening registries) requests).states = since ++ before)
    (some : since ≠ []) {name : Value} {e : Entry}
    (mounted : ∀ f ∈ since, f.fields.entry name = .ok e) :
    ((after behaviour (begun opening registries) requests).Unvalidated name ↔
        ¬ (after behaviour (begun opening registries) requests).form.HasEntry name) ∧
      ((after behaviour (begun opening registries) requests).form.HasEntry name ↔
        Form.Inherited name before ∨ Form.Recorded name since before) ∧
      ((∀ g ∈ before, g.fields.hasName name ≠ .ok true) →
        ((after behaviour (begun opening registries) requests).form.HasEntry name ↔
          Form.Validated name e since before)) := by
  obtain ⟨sound, -⟩ := after_advances hmakes hrequests _ (sound_begun opening registries)
  have reasons := sound.hasEntry_iff_of_mounted split mounted
  obtain ⟨f, hf⟩ := List.exists_mem_of_ne_nil since some
  have hname : name.isKey = true :=
    FieldTable.isKey_of_hasName (FieldTable.hasName_of_entry (mounted f hf))
  refine ⟨unvalidated_iff hname, reasons, fun fresh => ?_⟩
  exact reasons.trans (sound.validated_of_fresh split mounted fresh)

/-- A function that rejects everything. -/
def rejecting : Behaviour := fun _ _ _ => .answer (.bool false)

/-- A field is rejected and unregistered, and then another one is registered under its name. -/
def remount : List Request :=
  [.register "x" (some { (default : FieldSource) with name := .str "a", validator := .script 0 }),
    .validate, .unregister (.held "x"),
    .register "y" (some { (default : FieldSource) with name := .str "a" })]

/-- The world in which the other field has just come. -/
def remounted : World := after rejecting (begun (.options [(.accept, .script 0)]) .builtin) remount

/-- The other field has the error of the first one, although it has never been validated. -/
theorem remounted_inherits :
    (∀ f ∈ [remounted.form], f.fields.entry (.str "a") = .ok ⟨1, none⟩) ∧
      Form.Inherited (.str "a") remounted.past ∧ remounted.form.HasEntry (.str "a") ∧
      remounted.form.errors.table = [(.str "a", .bool true)] := by
  have made : rejecting.Makes Request.LeavesErrors := fun _ _ _ => trivial
  have alone : ∀ f ∈ [remounted.form], f.fields.entry (.str "a") = .ok ⟨1, none⟩ :=
    List.forall_mem_singleton.mpr rfl
  have inherited : Form.Inherited (.str "a") remounted.past :=
    ⟨_, List.mem_cons_self, .bool true, rfl⟩
  have harmless : ∀ r ∈ remount, r.LeavesErrors := by simp [remount, Request.LeavesErrors]
  have split : remounted.states = [remounted.form] ++ remounted.past := rfl
  obtain ⟨-, reasons, -⟩ := entry_iff_of_mounted made (.options [(.accept, .script 0)]) .builtin
    remount harmless split (List.cons_ne_nil _ _) alone
  exact ⟨alone, inherited, reasons.mpr (.inl inherited), rfl⟩

end Session

end FormRules
