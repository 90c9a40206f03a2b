/-
# Results — when a submission gives one

A submission of the form of a definition goes through steps that may fail: the rules of each field
are compiled, its values are stored, and its rules are evaluated if it is the only field of its
name.  `Runs` asks of each of these steps that it does not fail.  That this is enough is said by
`Session/Verdict`; here it is shown that it is necessary as well, one step after the other:

    building gives a result      each field compiles and holds its values
    a pass gives a result        the rules of each field that is alone under its name are evaluated
-/
import FormRules.Proofs.Session.Verdict

namespace FormRules

open FormM Treatment

namespace Session

/-! ## Building -/

section Building

variable {d : FieldDefinition} {model given : Table Value} {w w' : World}

theorem exists_held_of_storing {id : FieldId} {o : Outcome Value}
    (h : storing d id w o = (.ok (), w')) : ∃ held, o = .ok held := by
  cases o with
  | error f => cases h
  | ok held => exact ⟨held, rfl⟩

/-- A field is only added if its rules are compiled. -/
theorem exists_chain_of_addField (hfull : d.name.truthy = true)
    (h : (Form.addField w.objects.length).runIn (w.adding (d.object d.kind.blank)) = (.ok (), w')) :
    ∃ chain, d.chainIn w.registries = .ok chain := by
  cases hchain : d.chainIn w.registries with
  | ok chain => exact ⟨chain, rfl⟩
  | error f =>
      have compiled : (Form.compileRules (d.object d.kind.blank)).runIn
          (w.adding (d.object d.kind.blank)) = (.error f, w.adding (d.object d.kind.blank)) := by
        rw [Form.runIn_compileRules]
        exact congrArg (·, _) hchain
      simp [Form.addField, runIn_bind, w.field_adding, hfull, compiled] at h

/-- Building a field gives a result only if the field compiles and holds its values. -/
theorem settles_of_buildFields_cons (hname : d.name.isKey = true) (hfull : d.name.truthy = true)
    (hmodel : w.form.options.model = .map model) {rest : List FieldDefinition}
    (h : (buildFields (.map given) [] (d :: rest)).runIn w = (.ok (), w')) :
    (∃ chain, d.chainIn w.registries = .ok chain) ∧ d.Settles model given := by
  rw [runIn_buildFields_begins hname] at h
  obtain ⟨_, w₂, registered, h⟩ := exists_of_runIn_bind h
  obtain ⟨_, _, gave, -⟩ := exists_of_runIn_bind h
  have begun := registered
  unfold Form.registerField at begun
  obtain ⟨_, _, added, -⟩ := exists_of_runIn_bind begun
  obtain ⟨chain, hchain⟩ := exists_chain_of_addField hfull added
  obtain ⟨w₁, reports, field₁, added⟩ := exists_added hname hfull hchain
  have initial : ∃ value, d.initial model = .ok value := by
    rw [runIn_registerField_of_added hname added field₁ (by rw [reports.form]; exact hmodel)]
      at registered
    unfold FieldDefinition.initial
    cases found : model.find? d.name with
    | none => exact ⟨_, rfl⟩
    | some v =>
        rw [found] at registered
        exact exists_held_of_storing registered
  refine ⟨⟨chain, hchain⟩, initial, ?_⟩
  obtain ⟨value, hvalue⟩ := initial
  obtain ⟨w₃, reports₃, ran⟩ := runIn_registerField hname hfull hchain hmodel hvalue
  obtain rfl : w₃ = w₂ := congrArg Prod.snd (ran.symm.trans registered)
  have field₃ : w₃.field w.objects.length = d.object value := by
    rw [reports₃.field]
    exact w.field_adding _
  rw [runIn_giveValue given hname field₃] at gave
  unfold FieldDefinition.effective
  cases found : given.find? d.name with
  | none => exact ⟨value, hvalue⟩
  | some v =>
      rw [found] at gave
      exact exists_held_of_storing gave

/-- Building fields gives a result only if each of them can be built. -/
theorem builds_of_buildFields {ds : List FieldDefinition} (valid : ∀ d ∈ ds, d.IsValid)
    (hmodel : w.form.options.model = .map model) {w₁ : World}
    (registries : w₁.registries = w.registries) (options : w₁.form.options = w.form.options)
    (h : (buildFields (.map given) [] ds).runIn w₁ = (.ok (), w')) :
    ∀ d ∈ ds, Builds w.registries model given d := by
  induction ds generalizing w₁ with
  | nil => exact fun _ hd => absurd hd List.not_mem_nil
  | cons d rest ih =>
      obtain ⟨here, later⟩ := List.forall_mem_cons.mp valid
      have hname := here.isKey_name
      have hfull := here.truthy_name
      have hmodel₁ : w₁.form.options.model = .map model := by rw [options]; exact hmodel
      obtain ⟨⟨chain, hchain⟩, settles⟩ := settles_of_buildFields_cons hname hfull hmodel₁ h
      obtain ⟨w₂, reports, onward⟩ :=
        runIn_buildFields_cons hname hfull hchain hmodel₁ settles rest
      refine List.forall_mem_cons.mpr ⟨⟨here, ⟨chain, registries ▸ hchain⟩, settles⟩, ?_⟩
      refine ih later ?_ ?_ (onward ▸ h)
      · rw [reports.registries]
        exact registries
      · rw [reports.form]
        exact options

end Building

/-! ## Evaluating rules -/

section Evaluating

variable {d : FormDefinition} {given : Table Value} {call : Caller} {w w' : World}

/-- The registrations of a name that belongs to one definition. -/
theorem exists_entry_of_only (given : Table Value) {f : FieldDefinition} (hf : f ∈ d.fields)
    (only : named d.fields f.name.text = [f]) :
    ∃ e, (.str f.name.text, [e]) ∈ (builtOf d given).form.fields.buckets ∧
      (builtOf d given).field e.field = f.object (f.valueIn d.model given) ∧
      e.chain = f.chain? .builtin := by
  have key : Value.str f.name.text ∈ (builtOf d given).form.fields.keys := by
    rw [builtOf, keys_built]
    exact List.mem_map_of_mem (List.mem_eraseDups.mpr (List.mem_map_of_mem hf))
  obtain ⟨⟨_, entries⟩, hb, rfl⟩ := List.mem_map.mp key
  obtain ⟨name, same, registered⟩ := exists_registered hb
  obtain rfl : f.name.text = name := Value.str.inj same
  cases registered with
  | @one e f' only' field chain =>
      obtain rfl : f' = f := List.singleton_inj.mp (only'.symm.trans only)
      exact ⟨e, hb, field, chain⟩
  | several _ named_ne => exact absurd (by rw [only]; rfl) named_ne

/-- A check by rules that has given a result has evaluated them. -/
theorem evaluates_of_holds {t : Treatment} {context name value : Value} {e : Entry}
    {chain : Chain} (h : t.Holds call context) (registration : t.registration = (name, [e]))
    (decided : Form.firstCheck? (t.before.field e.field) e.chain t.before.form.tiers =
      some (.rules chain)) (asked : context.entry name = .ok value)
    (returned : ∀ f, t.finding ≠ .raised f) : chain.Runs t.before.registries value := by
  cases h with
  | shared several =>
      obtain ⟨-, rfl⟩ := Prod.mk.inj registration
      exact absurd several (Nat.not_le_of_lt Nat.one_lt_two)
  | @checked _ _ _ _ e' _ w _ _ first asked' ran =>
      obtain ⟨rfl, entries⟩ := Prod.mk.inj registration
      obtain ⟨rfl, -⟩ := List.cons.inj entries
      obtain rfl := Option.some.inj (decided.symm.trans first)
      obtain rfl := Except.ok.inj (asked.symm.trans asked')
      obtain ⟨w', -, evaluated⟩ := Form.runIn_runChain e'.field chain value w
      exact Chain.runs_of_run (congrArg Prod.fst (evaluated.symm.trans ran))
  | raised => exact absurd rfl (returned _)

/-- A pass over the form of a definition gives a verdict only if the rules of each field that is
alone under its name can be evaluated. -/
theorem evaluates_of_validateAll (hcall : call.Quiet)
    (compiles : ∀ f ∈ d.fields, ∃ chain, f.chainIn .builtin = .ok chain)
    (ground : (builtOf d given).SameGround w) {verdict : Verdict}
    (h : (Form.validateAll call (.map w.readings)).runIn w = (.ok verdict, w')) :
    d.Evaluates given := by
  have plain := ground.isPlain (isPlain_builtOf d given)
  have mapping : (Value.map w.readings).IsMapping := ⟨w.readings, rfl⟩
  obtain ⟨ts, outcome, w₁, ran, linked, held, accounts⟩ :=
    Form.validateAll_treats hcall.benign mapping plain.decisive plain.wholeOverride
  cases outcome with
  | error f => cases congrArg Prod.fst (ran.symm.trans h)
  | ok failed =>
      obtain ⟨-, registrations, returned⟩ := accounts
      intro f hf only
      obtain ⟨e, hb, field, chain⟩ := exists_entry_of_only given hf only
      have asked := entry_readings_builtOf ground field hb
      rw [← ground.fields] at hb
      obtain ⟨t, ht, registration⟩ := List.mem_map.mp (registrations ▸ hb)
      have ground₁ : (builtOf d given).SameGround t.before :=
        World.sameGround_frame.trans ground ((linked.sameGround hcall held).1 t ht)
      have decided := firstCheck?_builtOf ground₁ field e.chain
      rcases FieldDefinition.chain?_cases (compiles f hf) with ⟨-, empty⟩ | has
      · simp [empty]
      · have chained : e.chain = some ⟨f.ruleList, f.kind.shelf⟩ := chain.trans has
        simp only [chained] at decided
        rw [← chained] at decided
        have runs := evaluates_of_holds (held t ht) registration decided asked (returned t ht)
        rw [ground₁.registries] at runs
        exact runs

end Evaluating

end Session

end FormRules
