/-
# Rules of a field — when a failing rule is recorded

A field that its compiled rules decide is valid exactly when its chain gives `true`, and what is
recorded for it says the same.  Whether the chain gives `true` depends on the messages as well as
on the rules: a message may itself be `true`, and then the rule that it belongs to counts as
passed.

    messages of the failing rules        validation gives      recorded
    one is not exactly `true`            `false`               the first such message, or `true`
    all are exactly `true`               `true`                `false`

`validateOne_rejects_iff` is this table, for every chain, value and source of messages.
`affirmed` is a form for which the second line applies.
-/
import FormRules.Proofs.Form.Client
import FormRules.Proofs.Rule.Chain

namespace FormRules

open FormM

theorem FieldTable.isKey_of_entry {t : FieldTable} {name : Value} {e : Entry}
    (h : t.entry name = .ok e) : name.isKey = true := by
  by_cases hname : name.isKey = true
  · exact hname
  · rw [entry, bucket?, if_neg hname] at h
    cases h

namespace Form

variable {call : Caller} {w : World} {name value context : Value} {e : Entry} {chain : Chain}

/-- A value is recorded under a name, and the listeners are notified, which ends in `w'`. -/
structure Records (call : Caller) (name stored : Value) (w w' : World) : Prop where
  found : (w.recording name stored).form.errors.table.find? name = some stored
  notified : (notify call w.form.errors.table w.form.errors.listeners).runIn
    (w.recording name stored) = (.ok (), w')

theorem runIn_setError_records (hreturns : ∀ f args, ¬ args.IsOutcome → Completes (call f args))
    (hname : name.isKey = true) {isError : Bool} {detail stored : Value}
    (said : errorValue isError detail = .ok stored) (w : World) :
    ∃ w', (setError call name isError detail).runIn w = (.ok stored, w') ∧
      Records call name stored w w' := by
  obtain ⟨_, w', notified⟩ :=
    notify_completes hreturns w.form.errors.table w.form.errors.listeners (w.recording name stored)
  refine ⟨w', ?_, Table.find?_put_self _ _ _, notified⟩
  rw [runIn_setError hname said, runIn_map, notified]
  rfl

/-- A field with one registration that is decided by its rules: the result of the chain is
recorded, and only `true` is valid. -/
theorem runIn_validateOne_rules
    (hreturns : ∀ f args, ¬ args.IsOutcome → Completes (call f args))
    (unique : w.form.fields.entry name = .ok e)
    (decided : firstCheck? (w.field e.field) e.chain w.form.tiers = some (.rules chain))
    (asked : context.entry name = .ok value) {result : Value}
    (ran : (chain.run w.registries (w.field e.field).errorHelp w.form.defaultHelp value).2 =
      .ok result) :
    ∃ w₁ w₂, w.Reports w₁ ∧
      Records call name (entryFor result) w₁ w₂ ∧
      (validateOne call name context).runIn w = (.ok result.isTrue, w₂) := by
  obtain ⟨w₁, reports, evaluated⟩ := runIn_runChain e.field chain value w
  rw [ran] at evaluated
  obtain ⟨w₂, recorded, records⟩ := runIn_setError_records hreturns
    (FieldTable.isKey_of_entry unique) (errorValue_messageOf result) w₁
  refine ⟨w₁, w₂, reports, records, ?_⟩
  have looked : (validateOne call name context).runIn w =
      (validateEntry call name context e).runIn w := by
    simp [validateOne, validateIn, runIn_bind, unique]
  rw [looked, runIn_validateEntry decided asked, runCheck, runIn_bind_ok evaluated,
    runIn_bind_ok recorded]
  rfl

/-- **When failing rules are reported.**  If the rules of a field decide it and can all be
evaluated, the field is invalid, and an error is recorded for it, exactly when a rule fails whose
message is not exactly `true`. -/
theorem validateOne_rejects_iff
    (hreturns : ∀ f args, ¬ args.IsOutcome → Completes (call f args))
    (unique : w.form.fields.entry name = .ok e)
    (decided : firstCheck? (w.field e.field) e.chain w.form.tiers = some (.rules chain))
    (asked : context.entry name = .ok value) (runs : chain.Runs w.registries value) :
    ∃ result stored w₁ w₂,
      (chain.run w.registries (w.field e.field).errorHelp w.form.defaultHelp value).2 =
        .ok result ∧
      (validateOne call name context).runIn w = (.ok result.isTrue, w₂) ∧
      w.Reports w₁ ∧ Records call name stored w₁ w₂ ∧
      (stored ≠ .bool false ↔ result.isTrue = false) ∧
      (result.isTrue = false ↔ ∃ r ∈ chain.rules,
        Chain.fails (w.registries.get chain.shelf) value r = true ∧
          (resolveMessage (w.field e.field).errorHelp w.form.defaultHelp r.name).isTrue =
            false) := by
  have ran := Chain.run_eq runs (w.field e.field).errorHelp w.form.defaultHelp
  obtain ⟨w₁, w₂, reports, records, validated⟩ :=
    runIn_validateOne_rules hreturns unique decided asked ran
  refine ⟨_, _, w₁, w₂, ran, validated, reports, records, ?_, ?_⟩
  · exact entryFor_ne_false_iff
  · rw [Chain.isTrue_getD_reported?]
    simp [Chain.isReported]

/-! ## A rule that fails unnoticed -/

/-- A rule string with the one rule `minLength:3`, compiled. -/
def atLeastThree : Chain := ⟨[⟨"minLength", false, ["3"]⟩], .standard⟩

/-- A form whose one field has the rule `minLength:3` with the message `true`. -/
def affirmed : World :=
  let field : Field := { (default : Field) with
    name := .str "f"
    rules := .str "minLength:3"
    errorHelp := .map [(.str "minLength", .bool true)] }
  ((addField 0).runIn
    { World.initial (Registries.withBuiltins ⟨.empty "standard", .empty "file"⟩)
        (ofOptions .default) with objects := [field] }).2

theorem entry_affirmed : affirmed.form.fields.entry (.str "f") = .ok ⟨0, some atLeastThree⟩ := by
  rfl

theorem firstCheck?_affirmed :
    firstCheck? (affirmed.field 0) (some atLeastThree) affirmed.form.tiers =
      some (.rules atLeastThree) := by
  rfl

theorem runs_affirmed : atLeastThree.Runs affirmed.registries (.str "a") := by
  intro r hr
  obtain rfl := List.mem_singleton.mp hr
  exact ⟨.bool false, rfl⟩

/-- The rule fails on `a`, but the field counts as valid, and that is recorded. -/
theorem affirmed_accepts :
    (∃ r ∈ atLeastThree.rules,
        Chain.fails affirmed.registries.standard (.str "a") r = true) ∧
      ∃ w₁ w₂, (validateOne .idle (.str "f") (.map [(.str "f", .str "a")])).runIn affirmed =
          (.ok true, w₂) ∧
        Records .idle (.str "f") (.bool false) w₁ w₂ := by
  have asked : (Value.map [(.str "f", .str "a")]).entry (.str "f") = .ok (.str "a") := rfl
  obtain ⟨result, stored, w₁, w₂, ran, validated, -, records, hstored, -⟩ :=
    validateOne_rejects_iff Caller.idle_benign.returns entry_affirmed
      firstCheck?_affirmed asked runs_affirmed
  have affirms : (atLeastThree.run affirmed.registries (affirmed.field 0).errorHelp
      affirmed.form.defaultHelp (.str "a")).2 = .ok (.bool true) := by rfl
  obtain rfl : result = .bool true := Except.ok.inj (ran.symm.trans affirms)
  obtain rfl : stored = .bool false := by simpa [Value.isTrue] using hstored
  exact ⟨⟨_, List.mem_cons_self, by rfl⟩, w₁, w₂, validated, records⟩

end Form

end FormRules
