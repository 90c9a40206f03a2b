/-
# Verdicts — a submission finds what the definition says

The form that is built from a definition has no overrides and no validators, so its fields are
decided by their rules.  This module goes from the registrations of such a form to the meaning of
the definition: what a pass finds for a name, and what is shown of it afterwards, are the complaint
about that name (`Answers`).

    complaint       finding               recorded              shown
    none            passes                `false`
    message         that message          the message           the message
    `invalid`       `false`               `true`                `invalid`
    `invalid`       shared                nothing               `invalid`
-/
import FormRules.Proofs.Definition.Meaning
import FormRules.Proofs.Form.Submission

namespace FormRules

open FormM

namespace Session

variable {d : FormDefinition} {given : Table Value}

/-- The world of the form of a definition, with its fields. -/
def builtOf (d : FormDefinition) (given : Table Value) : World :=
  built d.model given (worldOf d) d.fields

/-- What is asked of a definition and values for a submission to give a verdict. -/
structure Runs (d : FormDefinition) (given : Table Value) : Prop where
  help : d.errorHelp.IsHelp
  builds : ∀ f ∈ d.fields, Builds .builtin d.model given f
  evaluates : d.Evaluates given

/-! ## Registrations -/

/-- What is registered under a name of a built form. -/
inductive Registered (d : FormDefinition) (given : Table Value) (name : String) :
    List Entry → Prop
  | one {e : Entry} {f : FieldDefinition} (only : named d.fields name = [f])
      (field : (builtOf d given).field e.field = f.object (f.valueIn d.model given))
      (chain : e.chain = f.chain? .builtin) : Registered d given name [e]
  | several {entries : List Entry} (entries_ne : entries.length ≠ 1)
      (named_ne : (named d.fields name).length ≠ 1) : Registered d given name entries

theorem exists_registered {b : Value × List Entry}
    (hb : b ∈ (builtOf d given).form.fields.buckets) :
    ∃ name, b.1 = .str name ∧ Registered d given name b.2 := by
  obtain ⟨name, hname, same⟩ := exists_of_mem_built d.model given (worldOf d) d.fields hb
  refine ⟨name, hname, ?_⟩
  have lengths : b.2.length = (named d.fields name).length := by
    simpa using congrArg List.length same
  by_cases one : b.2.length = 1
  · obtain ⟨e, he⟩ := List.length_eq_one_iff.mp one
    obtain ⟨f, hf⟩ := List.length_eq_one_iff.mp (lengths ▸ one)
    rw [he, hf] at same
    obtain ⟨field, chain⟩ := Prod.mk.inj (List.cons.inj same).1
    rw [he]
    exact .one hf field chain
  · exact .several one (lengths ▸ one)

theorem mem_fields_of_only {name : String} {f : FieldDefinition}
    (only : named d.fields name = [f]) : f ∈ d.fields ∧ f.name.text = name :=
  FormDefinition.mem_named_iff.mp (only ▸ List.mem_singleton_self f)

/-! ## Findings -/

section Findings

variable (runs : Runs d given) {name : String} {e : Entry} {f : FieldDefinition}
  (only : named d.fields name = [f]) (chain : e.chain = f.chain? .builtin)

include runs only chain

theorem evaluates_of_only : (builtOf d given).Evaluates e (f.valueIn d.model given) := by
  obtain ⟨hf, hname⟩ := mem_fields_of_only only
  intro c hc r hr
  have evaluates := runs.evaluates f hf (hname ▸ only)
  rw [chain] at hc
  rcases FieldDefinition.chain?_cases (runs.builds f hf).compiles with ⟨none, -⟩ | some
  · rw [none] at hc
    cases hc
  · rw [some] at hc
    obtain rfl := Option.some.inj hc
    exact evaluates r hr

/-- The rules of a field answer with the message of the first one that fails. -/
theorem answer_of_only
    (field : (builtOf d given).field e.field = f.object (f.valueIn d.model given)) :
    (builtOf d given).answer e (f.valueIn d.model given) =
      match f.failing? (f.valueIn d.model given) with
      | some r => resolveMessage f.errorHelp d.errorHelp r.name
      | none => .bool true := by
  obtain ⟨hf, -⟩ := mem_fields_of_only only
  have help := (runs.builds f hf).valid.errorHelp
  unfold World.answer FieldDefinition.failing?
  rw [chain, field, f.errorHelp_object]
  rcases FieldDefinition.chain?_cases (runs.builds f hf).compiles with ⟨none, empty⟩ | some
  · rw [none, empty]
    rfl
  · rw [some]
    show (Chain.reported? (Registries.builtin.get f.kind.shelf) f.errorHelp d.errorHelp _
      f.ruleList).getD (.bool true) = _
    rw [Chain.reported?_of_isHelp help runs.help]
    cases f.ruleList.find? _ <;> rfl

end Findings

theorem complaintOn_of_only {name : String} {f : FieldDefinition}
    (only : named d.fields name = [f]) :
    d.complaintOn given name = (f.failing? (f.valueIn d.model given)).map fun r =>
      complaint f.errorHelp d.errorHelp r.name := by
  rw [FormDefinition.complaintOn, only]

theorem complaintOn_of_several {name : String} (several : (named d.fields name).length ≠ 1) :
    d.complaintOn given name = some "invalid" := by
  unfold FormDefinition.complaintOn
  split
  · rename_i one
    exact absurd (by rw [one]; rfl) several
  · rfl

theorem findingOf_of_several (w : World) {entries : List Entry} (several : entries.length ≠ 1) :
    w.findingOf entries = .shared ∧ Form.oneField w entries = none := by
  match entries, several with
  | [], _ => exact ⟨rfl, rfl⟩
  | [_], several => exact absurd rfl several
  | _ :: _ :: _, _ => exact ⟨rfl, rfl⟩

theorem findingOf_of_one {e : Entry} {f : FieldDefinition}
    (field : (builtOf d given).field e.field = f.object (f.valueIn d.model given)) :
    (builtOf d given).findingOf [e] =
      .checked ((builtOf d given).answer e (f.valueIn d.model given)) := by
  rw [World.findingOf, field, f.current_object]

section Complaints

variable (runs : Runs d given) {name : String} {entries : List Entry}
  (registered : Registered d given name entries)

include runs registered

/-- What is found for a name passes exactly if there is no complaint about it. -/
theorem passes_findingOf :
    ((builtOf d given).findingOf entries).passes = (d.complaintOn given name).isNone := by
  cases registered with
  | @one e f only field chain =>
      obtain ⟨hf, -⟩ := mem_fields_of_only only
      rw [findingOf_of_one field, answer_of_only runs only chain field, complaintOn_of_only only]
      cases f.failing? _ with
      | none => rfl
      | some r =>
          exact isTrue_resolveMessage (runs.builds f hf).valid.errorHelp runs.help r.name
  | several entries_ne named_ne =>
      rw [(findingOf_of_several _ entries_ne).1, complaintOn_of_several named_ne]
      rfl

/-- What is shown of a name that fails is the complaint about it. -/
theorem shown_findingOf {message : String} (h : d.complaintOn given name = some message) :
    FieldStatus.shownHelp (Form.helpOf (Form.oneField (builtOf d given) entries)
      (((builtOf d given).findingOf entries).stored (.bool false))) = message := by
  cases registered with
  | @one e f only field chain =>
      obtain ⟨hf, -⟩ := mem_fields_of_only only
      have help := (runs.builds f hf).valid.errorHelp
      rw [complaintOn_of_only only] at h
      obtain ⟨r, failing, rfl⟩ := Option.map_eq_some_iff.mp h
      rw [findingOf_of_one field, answer_of_only runs only chain field, failing]
      have own : (f.object (f.valueIn d.model given)).errorHelp.IsHelp := by
        rwa [f.errorHelp_object]
      have shown := shown_resolveMessage own runs.help r.name
      rw [f.errorHelp_object] at shown
      simp only [Finding.stored, Form.oneField, field]
      exact shown
  | several entries_ne named_ne =>
      obtain ⟨shared, none⟩ := findingOf_of_several (builtOf d given) entries_ne
      obtain rfl := Option.some.inj ((complaintOn_of_several named_ne).symm.trans h)
      rw [shared, none]
      rfl

end Complaints

theorem isPlain_builtOf (d : FormDefinition) (given : Table Value) :
    (builtOf d given).form.IsPlain :=
  ⟨⟨.none, rfl, rfl⟩, rfl⟩

section Deciding

variable {w : World} (ground : (builtOf d given).SameGround w) {e : Entry} {f : FieldDefinition}
  (field : (builtOf d given).field e.field = f.object (f.valueIn d.model given))

include ground field

/-- A registration of a built form is decided by its rules, if it has any. -/
theorem firstCheck?_builtOf (chain : Option Chain) :
    Form.firstCheck? (w.field e.field) chain w.form.tiers = some (match chain with
      | some chain => .rules chain
      | none => .always) := by
  have noValidator : (w.field e.field).validator.isCallable = false := by
    rw [ground.field, field, f.validator_object]
    rfl
  exact (ground.isPlain (isPlain_builtOf d given)).firstCheck? noValidator chain

/-- Under a name that is registered once, the readings have what its field holds. -/
theorem entry_readings_builtOf {name : Value}
    (hb : (name, [e]) ∈ (builtOf d given).form.fields.buckets) :
    (Value.map w.readings).entry name = .ok (f.valueIn d.model given) := by
  rw [World.entry_readings (ground.fields ▸ hb), ground.field, field, f.current_object]

end Deciding

/-- The fields of a built form are decided by their rules. -/
theorem isRuled_builtOf (runs : Runs d given) : (builtOf d given).IsRuled where
  plain := isPlain_builtOf d given
  noValidator b hb e one := by
    obtain ⟨name, -, registered⟩ := exists_registered hb
    rw [one] at registered
    cases registered with
    | @one _ f only field chain =>
        rw [field, f.validator_object]
        rfl
    | several entries_ne => exact absurd rfl entries_ne
  evaluates b hb e one := by
    obtain ⟨name, -, registered⟩ := exists_registered hb
    rw [one] at registered
    cases registered with
    | @one _ f only field chain =>
        rw [field, f.current_object]
        exact evaluates_of_only runs only chain
    | several entries_ne => exact absurd rfl entries_ne

/-! ## Names that fail -/

theorem map_fst_complaints :
    (d.complaints given).map (·.1) =
      d.names.eraseDups.filter fun name => (d.complaintOn given name).isSome := by
  rw [FormDefinition.complaints, List.map_filterMap, ← List.filterMap_eq_filter]
  congr 1
  funext name
  cases h : d.complaintOn given name <;> simp [h, Option.guard]

/-- The names that fail are those about which there is a complaint, in the same order. -/
theorem failed_builtOf (runs : Runs d given) :
    Table.keys ((builtOf d given).form.fields.buckets.filter fun b =>
        !((builtOf d given).findingOf b.2).passes) =
      ((d.complaints given).map (·.1)).map .str := by
  have keys : (builtOf d given).form.fields.buckets.map (·.1) = d.names.eraseDups.map .str :=
    keys_built d.model given (worldOf d) d.fields
  have same : (builtOf d given).form.fields.buckets.filter (fun b =>
        !((builtOf d given).findingOf b.2).passes) =
      (builtOf d given).form.fields.buckets.filter
        ((fun name => (d.complaintOn given name.text).isSome) ∘ (·.1)) := by
    refine List.filter_congr fun b hb => ?_
    obtain ⟨name, hname, registered⟩ := exists_registered hb
    rw [passes_findingOf runs registered, Function.comp, hname, Value.text, Option.not_isNone]
  rw [same, Table.keys, ← List.filter_map, keys, List.filter_map, map_fst_complaints]
  rfl

end Session

end FormRules
