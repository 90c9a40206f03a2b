/-
# Recording — what a pass leaves in the table of errors

A pass writes to the table of errors once for each name that it checks, and nowhere else, as long
as the functions that it calls do not write there themselves (`Caller.Discreet`).  So the table
after a pass is the table before it with one change for each treatment, `Treatment.record`, and
since names are distinct the entry of each name is the one that its own treatment has left:

    finding        entry of the name after the pass
    checked        what its result amounts to: `false`, a message or `true`
    shared         the entry from before, if there was one
    raised         the entry from before, if there was one

`validateAll_agrees_iff` compares this with the verdict.  A checked name fails exactly when an error
is recorded for it.  A shared name always fails, and keeps whatever was recorded for it.
-/
import FormRules.Proofs.Form.Pass
import FormRules.Proofs.Form.Rules
import FormRules.Proofs.Value.Keys
import Mathlib.Data.List.Nodup

namespace FormRules

open FormM

/-- The recorded errors are as before. -/
def World.SameErrors (w w' : World) : Prop := w'.form.errors.table = w.form.errors.table

theorem World.sameErrors_chained : Chained World.SameErrors where
  refl _ := rfl
  trans h h' := h'.trans h

/-- Overrides, validators and listeners record no errors themselves. -/
def Caller.Discreet (call : Caller) : Prop :=
  ∀ f args, ¬ args.IsOutcome → Keeps World.SameErrors (call f args)

theorem Caller.idle_discreet : Caller.idle.Discreet :=
  fun _ _ _ => World.sameErrors_chained.pure _

/-- What is recorded for a name, where nothing recorded is no error. -/
def World.errorOf (w : World) (name : Value) : Value :=
  (w.form.errors.table.find? name).getD (.bool false)

namespace Form

variable {call : Caller}

theorem runIn_hasError {name : Value} (hname : name.isKey = true) (w : World) :
    (hasError name).runIn w = (.ok (w.errorOf name), w) := by
  simp [hasError, recorded?, hname, runIn_map, World.errorOf, Except.map]

/-- A check records nothing itself. -/
theorem runCheck_sameErrors (hcall : call.Discreet) (field : FieldId) (name value context : Value)
    (check : Check) : Keeps World.SameErrors (runCheck call field name value context check) := by
  have chained := World.sameErrors_chained
  cases check with
  | formOverride hook => exact callHook_keeps chained hcall (.field name value context) id hook
  | fieldOverride hook => exact callHook_keeps chained hcall (.value value context) id hook
  | rules chain =>
      intro w
      obtain ⟨w', reports, evaluated⟩ := runIn_runChain field chain value w
      rw [runCheck, evaluated, World.SameErrors, reports.form]
  | always => exact chained.pure _

/-- Recording for a name puts one entry into the table. -/
theorem table_of_setError (hcall : call.Discreet) {name detail stored : Value} {isError : Bool}
    {w w' : World} (hname : name.isKey = true)
    (said : errorValue isError detail = .ok stored) {given : Value}
    (h : (setError call name isError detail).runIn w = (.ok given, w')) :
    w'.form.errors.table = w.form.errors.table.put name stored := by
  have notified : World.SameErrors (w.recording name stored) w' := by
    have kept := World.sameErrors_chained.map (g := fun _ => stored)
      (notify_keeps World.sameErrors_chained hcall w.form.errors.table w.form.errors.listeners)
      (w.recording name stored)
    rw [← runIn_setError hname said, h] at kept
    exact kept
  exact notified

end Form

/-! ## The table after treatments -/

namespace Treatment

variable {call : Caller} {context : Value}

/-- The table of errors after a treatment. -/
def record (errors : Table Value) (t : Treatment) : Table Value :=
  match t.finding with
  | .checked result => errors.put t.name (entryFor result)
  | .shared | .raised _ => errors

/-- What is found for the name of a treatment after it, if `entry` was found before. -/
def recorded (entry : Option Value) (t : Treatment) : Option Value :=
  match t.finding with
  | .checked result => some (entryFor result)
  | .shared | .raised _ => entry

theorem find?_record_self (errors : Table Value) (t : Treatment) :
    (record errors t).find? t.name = recorded (errors.find? t.name) t := by
  unfold record recorded
  cases t.finding with
  | checked result => exact Table.find?_put_self _ _ _
  | shared => rfl
  | raised f => rfl

theorem find?_record_of_not_same {t : Treatment} {name : Value} (hkey : t.name.isKey = true)
    (apart : t.name.same name = false) (errors : Table Value) :
    (record errors t).find? name = errors.find? name := by
  unfold record
  cases t.finding with
  | checked result => exact Table.find?_put_of_not_same hkey apart errors _
  | shared => rfl
  | raised f => rfl

/-- A treatment records its finding, and nothing else. -/
theorem Holds.table (hcall : call.Discreet) {t : Treatment} (h : t.Holds call context)
    (hkey : t.name.isKey = true) :
    t.after.form.errors.table = record t.before.form.errors.table t := by
  cases h with
  | shared => rfl
  | @checked name value result stored e check w w₁ w₂ first asked ran recorded =>
      have quiet : World.SameErrors w w₁ := by
        have kept := Form.runCheck_sameErrors hcall e.field name value context check w
        rw [ran] at kept
        exact kept
      show w₂.form.errors.table = w.form.errors.table.put name _
      rw [Form.table_of_setError hcall hkey (errorValue_messageOf result) recorded, quiet]
  | @raised name value e chain f w w₁ first asked ran =>
      have kept := Form.runCheck_sameErrors hcall e.field name value context (.rules chain) w
      rw [Form.runCheck, ran] at kept
      exact kept

theorem Linked.table (hcall : call.Discreet) {w w' : World} {ts : List Treatment}
    (h : Linked w ts w') (hts : ∀ t ∈ ts, t.Holds call context)
    (hkeys : ∀ t ∈ ts, t.name.isKey = true) :
    w'.form.errors.table = ts.foldl record w.form.errors.table := by
  induction h with
  | nil => rfl
  | @cons t ts w' rest ih =>
      have here := (hts t List.mem_cons_self).table hcall (hkeys t List.mem_cons_self)
      rw [List.foldl_cons, ← here]
      exact ih (fun t' ht' => hts t' (List.mem_cons_of_mem _ ht'))
        fun t' ht' => hkeys t' (List.mem_cons_of_mem _ ht')

/-- Treatments of other names leave the entry of a name alone. -/
theorem find?_foldl_record_of_not_same {name : Value} {ts : List Treatment}
    (hkeys : ∀ t ∈ ts, t.name.isKey = true) (apart : ∀ t ∈ ts, t.name.same name = false)
    (errors : Table Value) : (ts.foldl record errors).find? name = errors.find? name := by
  induction ts generalizing errors with
  | nil => rfl
  | cons t rest ih =>
      obtain ⟨hkey, hrest⟩ := List.forall_mem_cons.mp hkeys
      obtain ⟨here, later⟩ := List.forall_mem_cons.mp apart
      rw [List.foldl_cons, ih hrest later, find?_record_of_not_same hkey here]

/-- Where names are distinct, the entry of each name is that of its own treatment. -/
theorem find?_foldl_record {ts : List Treatment} (hkeys : ∀ t ∈ ts, t.name.isKey = true)
    (distinct : (ts.map name).Pairwise fun a b => a.same b = false) {t : Treatment} (ht : t ∈ ts)
    (errors : Table Value) :
    (ts.foldl record errors).find? t.name = recorded (errors.find? t.name) t := by
  induction ts generalizing errors with
  | nil => exact absurd ht List.not_mem_nil
  | cons first rest ih =>
      obtain ⟨hkey, hrest⟩ := List.forall_mem_cons.mp hkeys
      rw [List.map_cons] at distinct
      obtain ⟨apart, distinct⟩ := List.pairwise_cons.mp distinct
      have apart' (t : Treatment) (h : t ∈ rest) : first.name.same t.name = false :=
        apart t.name (List.mem_map_of_mem h)
      rw [List.foldl_cons]
      rcases List.mem_cons.mp ht with rfl | ht
      · -- The later treatments are of other names, and what counts is that those come second.
        have others (t' : Treatment) (h : t' ∈ rest) : t'.name.same t.name = false := by
          rw [Value.same_comm (hrest t' h)]
          exact apart' t' h
        rw [find?_foldl_record_of_not_same hrest others, find?_record_self]
      · rw [ih hrest distinct ht, find?_record_of_not_same hkey (apart' t ht)]

/-- A name fails exactly when its treatment does. -/
theorem mem_failedNames_iff {ts : List Treatment}
    (distinct : (ts.map name).Pairwise fun a b => a.same b = false) {t : Treatment} (ht : t ∈ ts) :
    t.name ∈ failedNames ts ↔ t.finding.passes = false := by
  refine ⟨fun h => ?_, mem_failedNames ht⟩
  have nodup : (ts.map name).Nodup := distinct.imp fun apart equal => by
    rw [equal, Value.same_self] at apart
    cases apart
  obtain ⟨t', ht', names⟩ := List.mem_map.mp h
  obtain ⟨mem, fails⟩ := List.mem_filter.mp ht'
  obtain rfl := List.inj_on_of_nodup_map nodup mem ht names
  simpa using fails

end Treatment

open Treatment

/-! ## The verdict and the table -/

namespace WholePass

variable {call : Caller} {context : Value} {w w' : World} {ts : List Treatment} {verdict : Verdict}

theorem names {fields : FieldTable} (h : WholePass fields ts verdict) :
    ts.map name = fields.keys := by
  rw [FieldTable.keys, ← h.registrations]
  simp [Table.keys, registration]

/-- The treatment of a registered name decides both whether it fails and what is found for it. -/
theorem exists_treatment (hcall : call.Discreet) (pass : WholePass w.form.fields ts verdict)
    (linked : Linked w ts w') (hts : ∀ t ∈ ts, t.Holds call context) {b : Value × List Entry}
    (hb : b ∈ w.form.fields.buckets) :
    ∃ t ∈ ts, t.registration = b ∧ t.Holds call context ∧
      (b.1 ∈ verdict.failed ↔ t.finding.passes = false) ∧
      w'.errorOf b.1 = (recorded (w.form.errors.table.find? b.1) t).getD (.bool false) := by
  have distinct : (ts.map name).Pairwise fun a b => a.same b = false :=
    pass.names ▸ w.form.fields.distinct
  have hkeys (t : Treatment) (ht : t ∈ ts) : t.name.isKey = true :=
    FieldTable.isKey_of_mem_keys (pass.names ▸ List.mem_map_of_mem ht)
  obtain ⟨t, ht, rfl⟩ := List.mem_map.mp (pass.registrations ▸ hb)
  refine ⟨t, ht, rfl, hts t ht, ?_, ?_⟩
  · rw [pass.failed]
    exact mem_failedNames_iff distinct ht
  · rw [World.errorOf, linked.table hcall hts hkeys]
    exact congrArg (·.getD (.bool false)) (find?_foldl_record hkeys distinct ht _)

end WholePass

namespace Form

variable {call : Caller} {context : Value}

/-- **When the verdict and the recorded errors agree.**  After a pass they agree about a name
exactly if the name belongs to one field or had an error before.  A shared name is among the names
that fail, and what was recorded for it stays. -/
theorem validateAll_agrees_iff (hcall : call.Benign) (hdiscreet : call.Discreet)
    (hcontext : context.IsMapping) {w : World} (htiers : w.form.Decisive)
    (hover : w.form.wholeOverride.isCallable = false) :
    ∃ outcome w', (validateAll call context).runIn w = (outcome, w') ∧
      match outcome with
      | .error f => ∃ ts, BrokenPass w.form.fields.buckets ts f
      | .ok verdict => ∀ b ∈ w.form.fields.buckets, ∃ before after,
          (hasError b.1).runIn w = (.ok before, w) ∧ (hasError b.1).runIn w' = (.ok after, w') ∧
          ((b.1 ∈ verdict.failed ↔ after ≠ .bool false) ↔
            b.2.length = 1 ∨ before ≠ .bool false) ∧
          (2 ≤ b.2.length → b.1 ∈ verdict.failed ∧ after = before) := by
  obtain ⟨ts, outcome, w', ran, linked, held, accounts⟩ :=
    validateAll_isolated hcall hcontext htiers hover
  refine ⟨outcome, w', ran, ?_⟩
  cases outcome with
  | error f => exact ⟨ts, accounts⟩
  | ok verdict =>
      intro b hb
      have hname : b.1.isKey = true := w.form.fields.isKey b hb
      refine ⟨_, _, runIn_hasError hname w, runIn_hasError hname w', ?_⟩
      obtain ⟨t, ht, rfl, holds, fails, found⟩ :=
        accounts.exists_treatment hdiscreet linked held hb
      rw [fails, found]
      cases holds with
      | @shared name entries w₀ several =>
          have notOne : entries.length ≠ 1 := (Nat.lt_of_lt_of_le Nat.one_lt_two several).ne'
          refine ⟨?_, fun _ => ⟨rfl, rfl⟩⟩
          show (Finding.shared.passes = false ↔ w.errorOf name ≠ .bool false) ↔
            entries.length = 1 ∨ w.errorOf name ≠ .bool false
          simp [Finding.passes, notOne]
      | @checked name value result stored e check w₀ w₁ w₂ =>
          refine ⟨?_, fun several => absurd several (Nat.not_le_of_lt Nat.one_lt_two)⟩
          show (result.isTrue = false ↔ entryFor result ≠ .bool false) ↔ 1 = 1 ∨ _
          simp [entryFor_ne_false_iff]
      | raised => exact absurd rfl (accounts.noneRaised _ ht _)

/-! ## A failing name without an error -/

/-- Three fields.  Two share the name `a`, for which there is an older entry `false`, and the
validator of `b` does not pass. -/
def twins : World :=
  let field (name : String) (validator : Hook) : Field :=
    { (default : Field) with name := .str name, validator := validator }
  let fields := ((FieldTable.empty.add (.str "a") ⟨0, none⟩).add (.str "a") ⟨1, none⟩).add
    (.str "b") ⟨2, none⟩
  { World.initial ⟨.empty "standard", .empty "file"⟩
      { ofOptions .default with
        fields := fields
        errors := ErrorState.empty.record (.str "a") (.bool false) } with
    objects := [field "a" .none, field "a" .none, field "b" .ignore] }

/-- Both names fail, and an error is recorded for `b` only. -/
theorem twins_disagree :
    ∃ w', (validateAll .idle (.map [])).runIn twins =
        (.ok ⟨false, [.str "a", .str "b"]⟩, w') ∧
      (hasError (.str "a")).runIn w' = (.ok (.bool false), w') ∧
      ∃ after, (hasError (.str "b")).runIn w' = (.ok after, w') ∧ after ≠ .bool false := by
  obtain ⟨outcome, w', ran, agreement⟩ :=
    validateAll_agrees_iff Caller.idle_benign Caller.idle_discreet
      (⟨[], rfl⟩ : (Value.map []).IsMapping) (w := twins) (decisive_ofOptions _) rfl
  have verdict : ((validateAll .idle (.map [])).runIn twins).1 =
      .ok ⟨false, [.str "a", .str "b"]⟩ := rfl
  rw [ran] at verdict
  subst verdict
  have sharing : (.str "a", [⟨0, none⟩, ⟨1, none⟩]) ∈ twins.form.fields.buckets :=
    List.mem_cons_self
  have single : (.str "b", [⟨2, none⟩]) ∈ twins.form.fields.buckets :=
    List.mem_cons_of_mem _ List.mem_cons_self
  refine ⟨w', ran, ?_, ?_⟩
  · obtain ⟨before, after, earlier, later, -, stays⟩ := agreement _ sharing
    have nothing : (hasError (.str "a")).runIn twins = (.ok (.bool false), twins) := rfl
    have older : Value.bool false = before :=
      Except.ok.inj (congrArg Prod.fst (nothing.symm.trans earlier))
    rw [later, (stays (Nat.le_refl 2)).2, ← older]
  · obtain ⟨before, after, -, later, agrees, -⟩ := agreement _ single
    have fails : Value.str "b" ∈ [Value.str "a", .str "b"] := by simp
    exact ⟨after, later, (agrees.mpr (.inl rfl)).mp fails⟩

end Form

end FormRules
