/-
# Tiers — the one check that decides a field, and the one entry that it changes

Validating one name ends in one of six ways, of which only the last one comes to recording:

    the name                                   finding     what has been called
    is not registered, or no name              raised      nothing
    belongs to several fields                  shared      nothing; a warning
    belongs to a field to which no tier        raised      nothing
      applies
    is asked of what holds no values           raised      nothing
    belongs to a field whose check fails       raised      the check
    belongs to a field whose check gives       checked     the check, then the listeners
      a result

The check is that of the first tier that applies (`Decides`), whatever tiers there are and in
whatever order.  `Finds` has one constructor for each line, with the reports that belong to it.
What functions of the client do while they run is up to them.  If they leave the form alone
(`Caller.Secluded`), the reports are all there is: no other override, validator or predicate has
been called, and of the recorded errors only the entry of the name has changed.
-/
import FormRules.Proofs.Form.Order
import FormRules.Proofs.Form.Override

namespace FormRules

open FormM

/-! ## The first tier that applies -/

/-- A tier applies to a field with these compiled rules, and decides it with this check. -/
inductive Tier.Applies (field : Field) (chain : Option Chain) : Tier → Check → Prop
  | formOverride {hook : Hook} (callable : hook.isCallable = true) :
      Applies field chain (.formOverride hook) (.formOverride hook)
  | fieldOverride (callable : field.validator.isCallable = true) :
      Applies field chain .fieldOverride (.fieldOverride field.validator)
  | rules {c : Chain} (compiled : chain = some c) : Applies field chain .rules (.rules c)
  | always : Applies field chain .always .always

/-- The first tier that applies to a field decides it with this check. -/
def Decides (tiers : List Tier) (field : Field) (chain : Option Chain) (check : Check) : Prop :=
  ∃ before tier after, tiers = before ++ tier :: after ∧ tier.Applies field chain check ∧
    ∀ earlier ∈ before, ∀ other, ¬ earlier.Applies field chain other

namespace Form

variable {field : Field} {chain : Option Chain} {tiers : List Tier} {check : Check}

theorem checkOf?_eq_some_iff {tier : Tier} :
    checkOf? field chain tier = some check ↔ tier.Applies field chain check := by
  constructor
  · intro found
    cases tier with
    | formOverride hook =>
        obtain ⟨callable, found⟩ := Option.ite_none_right_eq_some.mp found
        obtain rfl := Option.some.inj found
        exact .formOverride callable
    | fieldOverride =>
        obtain ⟨callable, found⟩ := Option.ite_none_right_eq_some.mp found
        obtain rfl := Option.some.inj found
        exact .fieldOverride callable
    | rules =>
        obtain ⟨c, compiled, rfl⟩ := Option.map_eq_some_iff.mp found
        exact .rules compiled
    | always =>
        obtain rfl := Option.some.inj found
        exact .always
  · rintro (callable | callable | compiled | _)
    · exact if_pos callable
    · exact if_pos callable
    · rw [checkOf?, compiled]
      rfl
    · rfl

theorem checkOf?_eq_none_iff {tier : Tier} :
    checkOf? field chain tier = none ↔ ∀ check, ¬ tier.Applies field chain check := by
  simp only [← checkOf?_eq_some_iff, Option.eq_none_iff_forall_ne_some, ne_eq]

/-- **The check of a field** is that of the first tier that applies. -/
theorem firstCheck?_eq_some_iff :
    firstCheck? field chain tiers = some check ↔ Decides tiers field chain check := by
  simp only [firstCheck?, List.findSome?_eq_some_iff, checkOf?_eq_some_iff, checkOf?_eq_none_iff,
    Decides]

theorem firstCheck?_eq_none_iff :
    firstCheck? field chain tiers = none ↔
      ∀ tier ∈ tiers, ∀ check, ¬ tier.Applies field chain check := by
  simp only [firstCheck?, List.findSome?_eq_none_iff, checkOf?_eq_none_iff]

end Form

/-! ## How validating one name goes -/

/-- The entry that is recorded for a finding, if any. -/
def Finding.entry? : Finding → Option Value
  | checked result => some (entryFor result)
  | shared | raised _ => none

/-- The reports that belong to a check, the latest first: that its override is called, or the
predicates of its rules. -/
def Check.reports (w : World) (id : FieldId) (name value context : Value) : Check → List Event
  | .formOverride (.function f) => [.call f.role (.field name value context)]
  | .fieldOverride (.function f) => [.call f.role (.value value context)]
  | .rules chain =>
      let (calls, _) := chain.run w.registries (w.field id).errorHelp w.form.defaultHelp value
      (calls.map .rule).reverse
  | _ => []

/-- What is found for a name in a world, the reports that belong to it, and the world that this
leaves.  A check is carried out once, with what `context` has for the name. -/
inductive Finds (call : Caller) (name context : Value) (w : World) :
    Finding → List Event → World → Prop
  | unknown {f : Failure} (missing : w.form.fields.entry name = .error f)
      (other : ∀ n count, f ≠ .ambiguous n count) : Finds call name context w (.raised f) [] w
  | shared {n : Value} {count : Nat} {warning : Event}
      (several : w.form.fields.entry name = .error (.ambiguous n count))
      (said : warning = .log .warning (Form.sharedName n count ++ "; treating it as invalid")) :
      Finds call name context w .shared [warning] (w.noted warning)
  | undecided {e : Entry} (found : w.form.fields.entry name = .ok e)
      (none : ∀ tier ∈ w.form.tiers, ∀ check, ¬ tier.Applies (w.field e.field) e.chain check) :
      Finds call name context w (.raised .noTier) [] w
  | unread {e : Entry} {check : Check} {f : Failure} (found : w.form.fields.entry name = .ok e)
      (first : Decides w.form.tiers (w.field e.field) e.chain check)
      (asked : context.entry name = .error f) : Finds call name context w (.raised f) [] w
  | raised {e : Entry} {check : Check} {value : Value} {f : Failure} {w₁ : World}
      (found : w.form.fields.entry name = .ok e)
      (first : Decides w.form.tiers (w.field e.field) e.chain check)
      (asked : context.entry name = .ok value)
      (ran : (Form.runCheck call e.field name value context check).runIn w = (.error f, w₁)) :
      Finds call name context w (.raised f) (check.reports w e.field name value context) w₁
  | checked {e : Entry} {check : Check} {value result : Value} {w₁ : World}
      (found : w.form.fields.entry name = .ok e)
      (first : Decides w.form.tiers (w.field e.field) e.chain check)
      (asked : context.entry name = .ok value)
      (ran : (Form.runCheck call e.field name value context check).runIn w = (.ok result, w₁)) :
      Finds call name context w (.checked result) (check.reports w e.field name value context) w₁

/-- What validating a name does once it is clear what is found for it: the result of a check is
recorded and the listeners are told, and other findings are what comes of it. -/
def Finding.concluded (call : Caller) (name : Value) (w : World) : Finding → Outcome Bool × World
  | .checked result =>
      ((fun _ => result.isTrue) <$>
        Form.notify call w.form.errors.table w.form.errors.listeners).runIn
          (w.recording name (entryFor result))
  | finding => (finding.outcome, w)

namespace Form

variable {call : Caller} {name context : Value} {w w₁ : World}

/-- A registered field is decided by the first tier that applies, if there is one. -/
theorem exists_finds_entry (call : Caller) (context : Value) {e : Entry}
    (found : w.form.fields.entry name = .ok e) :
    ∃ finding reports w₁, Finds call name context w finding reports w₁ ∧
      (validateEntry call name context e).runIn w = finding.concluded call name w₁ := by
  cases first : firstCheck? (w.field e.field) e.chain w.form.tiers with
  | none =>
      refine ⟨_, _, _, .undecided found (firstCheck?_eq_none_iff.mp first), ?_⟩
      simp [validateEntry, runIn_bind, first, Finding.concluded, Finding.outcome]
  | some check =>
      have decides := firstCheck?_eq_some_iff.mp first
      cases asked : context.entry name with
      | error f =>
          refine ⟨_, _, _, .unread found decides asked, ?_⟩
          simp [validateEntry, runIn_bind, first, asked, Finding.concluded, Finding.outcome]
      | ok value =>
          rw [runIn_validateEntry first asked]
          rcases ran : (runCheck call e.field name value context check).runIn w with
            ⟨f | result, w₁⟩
          · refine ⟨_, _, _, .raised found decides asked ran, ?_⟩
            rw [runIn_bind_error ran]
            rfl
          · refine ⟨_, _, _, .checked found decides asked ran, ?_⟩
            rw [runIn_bind_ok ran, runIn_bind,
              runIn_setError (FieldTable.isKey_of_entry found) (errorValue_messageOf result),
              Finding.concluded, runIn_map, runIn_map]
            rcases (notify call w₁.form.errors.table w₁.form.errors.listeners).runIn
              (w₁.recording name (entryFor result)) with ⟨_ | _, _⟩ <;> rfl

/-- Validating a name does what comes of it. -/
theorem exists_finds (call : Caller) (name context : Value) (w : World) :
    ∃ finding reports w₁, Finds call name context w finding reports w₁ ∧
      (validateOne call name context).runIn w = finding.concluded call name w₁ := by
  have begun : (validateOne call name context).runIn w =
      (validateIn call w.form.fields name context).runIn w := by
    rw [validateOne, runIn_bind_ok (runIn_form w)]
  rw [begun, validateIn]
  split
  · rename_i e found
    exact exists_finds_entry call context found
  · rename_i n count several
    exact ⟨_, _, _, .shared several rfl, rfl⟩
  · rename_i f other missing
    exact ⟨_, _, _, .unknown missing other, rfl⟩

end Form

/-! ## Functions that leave the form alone -/

/-- A function has been called with these arguments, and nothing else has happened to the form. -/
def World.Heard (role : Role) (args : Arguments) (w w' : World) : Prop :=
  w.SameState w' ∧ w'.trace = .call role args :: w.trace

/-- Overrides, validators and listeners leave the form, its fields and the registries alone, whatever
they give and whether they fail. -/
def Caller.Secluded (call : Caller) : Prop :=
  ∀ f args, ¬ args.IsOutcome → Keeps (World.Heard f.role args) (call f args)

/-- Listeners have been told, and nothing else has happened to the form. -/
def World.Told (w w' : World) : Prop :=
  w.SameState w' ∧ ∃ notices, w'.trace = notices ++ w.trace ∧ ∀ e ∈ notices, e.IsNotice

theorem World.told_chained : Chained World.Told where
  refl w := ⟨.refl w, [], rfl, by simp⟩
  trans := by
    rintro w w' w'' ⟨same, notices, told, all⟩ ⟨same', notices', told', all'⟩
    refine ⟨same.trans same', notices' ++ notices, by rw [told', told, List.append_assoc], ?_⟩
    exact List.forall_mem_append.mpr ⟨all', all⟩

namespace Caller.Secluded

variable {call : Caller} (h : call.Secluded)

include h

theorem notify (previous : Table Value) (subscriptions : List Subscription) :
    Keeps World.Told (Form.notify call previous subscriptions) := by
  have chained := World.told_chained
  induction subscriptions with
  | nil => exact chained.pure _
  | cons s rest ih =>
      refine chained.bind chained.form fun form => chained.bind ?_ fun _ => ih
      intro w
      obtain ⟨same, heard⟩ := h s.listener (.change (.map previous) (.map form.errors.table)) id w
      exact ⟨same, [_], heard, by simp [Event.IsNotice, Arguments.IsChange]⟩

/-- A check that can be carried out makes its own reports, and nothing else happens. -/
theorem runCheck {check : Check} (callable : check.IsCallable) (id : FieldId)
    (name value context : Value) (w : World) :
    w.SameState ((Form.runCheck call id name value context check).runIn w).2 ∧
      ((Form.runCheck call id name value context check).runIn w).2.trace =
        check.reports w id name value context ++ w.trace := by
  cases check with
  | formOverride hook =>
      cases hook with
      | value v => cases callable
      | function f => exact h f (.field name value context) (fun h => h) w
      | ignore => exact ⟨.refl w, rfl⟩
  | fieldOverride hook =>
      cases hook with
      | value v => cases callable
      | function f => exact h f (.value value context) (fun h => h) w
      | ignore => exact ⟨.refl w, rfl⟩
  | rules chain =>
      have ran : ((Form.runCheck call id name value context (.rules chain)).runIn w).2 =
          { w with trace := Check.reports w id name value context (.rules chain) ++ w.trace } := by
        simp only [Form.runCheck, Form.runChain, runIn_bind, runIn_get, Form.runIn_emitCalls]
        rfl
      rw [ran]
      exact ⟨⟨rfl, rfl, rfl⟩, rfl⟩
  | always => exact ⟨.refl w, rfl⟩

end Caller.Secluded

section

variable {call : Caller} {name context : Value} {finding : Finding} {reports : List Event}
  {w w₁ w' : World} {outcome : Outcome Bool}

/-- Up to what is found for a name, functions that leave the form alone are called for the check
only. -/
theorem Finds.secluded (h : Finds call name context w finding reports w₁) (hcall : call.Secluded) :
    w.SameState w₁ ∧ w₁.trace = reports ++ w.trace := by
  cases h with
  | unknown | undecided | unread => exact ⟨.refl w, rfl⟩
  | shared => exact ⟨⟨rfl, rfl, rfl⟩, rfl⟩
  | @raised e check value f w₁ _ first _ ran =>
      have callable := Form.isCallable_of_firstCheck? (Form.firstCheck?_eq_some_iff.mpr first)
      have quiet := hcall.runCheck callable e.field name value context w
      rwa [ran] at quiet
  | @checked e check value result w₁ _ first _ ran =>
      have callable := Form.isCallable_of_firstCheck? (Form.firstCheck?_eq_some_iff.mpr first)
      have quiet := hcall.runCheck callable e.field name value context w
      rwa [ran] at quiet

/-- Only one thing is found for a name, so that only one check decides it. -/
theorem Finds.unique {finding' : Finding} {reports' : List Event} {w₁' : World}
    (h : Finds call name context w finding reports w₁)
    (h' : Finds call name context w finding' reports' w₁') :
    finding = finding' ∧ reports = reports' ∧ w₁ = w₁' := by
  have one {e : Entry} {check check' : Check}
      (first : Decides w.form.tiers (w.field e.field) e.chain check)
      (first' : Decides w.form.tiers (w.field e.field) e.chain check') : check = check' :=
    Option.some.inj ((Form.firstCheck?_eq_some_iff.mpr first).symm.trans
      (Form.firstCheck?_eq_some_iff.mpr first'))
  have some {e : Entry} {check : Check}
      (none : ∀ tier ∈ w.form.tiers, ∀ check, ¬ tier.Applies (w.field e.field) e.chain check)
      (first : Decides w.form.tiers (w.field e.field) e.chain check) : False := by
    cases (Form.firstCheck?_eq_none_iff.mpr none).symm.trans (Form.firstCheck?_eq_some_iff.mpr first)
  -- Lines that differ ask for different lookups, and lines that agree for the same ones.
  cases h <;> cases h' <;> grind

/-- Only a name that can be looked up gets an entry. -/
theorem Finds.isKey {entry : Value} (h : Finds call name context w finding reports w₁)
    (recorded : finding.entry? = some entry) : name.isKey = true := by
  cases h with
  | checked found => exact FieldTable.isKey_of_entry found
  | _ => cases recorded

/-- What validating a name gives, if it gives something, is whether the result is `true`. -/
theorem Finding.eq_true_iff_of_concluded (h : finding.concluded call name w = (outcome, w'))
    {valid : Bool} (given : outcome = .ok valid) :
    valid = true ↔ finding = .checked (.bool true) := by
  subst given
  cases finding with
  | raised f => cases h
  | shared =>
      cases h
      exact iff_of_false nofun nofun
  | checked result =>
      rw [concluded, runIn_map] at h
      obtain ⟨_, -, rfl⟩ := map_eq_ok_iff.mp (congrArg Prod.fst h)
      rw [Value.isTrue_iff, checked.injEq]

/-- Telling listeners fails only if a listener does. -/
theorem listenerFails_of_notify {previous : Table Value} {subscriptions : List Subscription}
    {f : Failure} (h : (Form.notify call previous subscriptions).runIn w = (.error f, w')) :
    call.ListenerFails f := by
  induction subscriptions generalizing w with
  | nil => cases h
  | cons s rest ih =>
      rw [Form.notify, runIn_bind_ok (runIn_form w)] at h
      rcases heard : (call s.listener (.change (.map previous) (.map w.form.errors.table))).runIn w
        with ⟨f' | v, w₁⟩
      · rw [runIn_bind_error heard] at h
        cases h
        exact ⟨_, _, _, _, _, heard⟩
      · rw [runIn_bind_ok heard] at h
        exact ih h

/-- Validating a name fails in the way its check does, or because a listener fails. -/
theorem Finding.raised_of_concluded {f : Failure}
    (h : finding.concluded call name w = (.error f, w')) :
    finding = .raised f ∨ call.ListenerFails f := by
  cases finding with
  | raised f' =>
      cases h
      exact .inl rfl
  | shared => cases h
  | checked result =>
      rw [concluded, runIn_map] at h
      rcases told : (Form.notify call w.form.errors.table w.form.errors.listeners).runIn
        (w.recording name (entryFor result)) with ⟨f' | _, w₂⟩
      · rw [told] at h
        cases h
        exact .inr (listenerFails_of_notify told)
      · rw [told] at h
        cases h

/-- Recording an entry changes that entry only, and the listeners are told; without an entry nothing
is done. -/
theorem Finding.leaves_of_concluded (hcall : call.Secluded)
    (h : finding.concluded call name w = (outcome, w')) :
    match finding.entry? with
    | some entry => (w.recording name entry).Told w'
    | none => w' = w := by
  cases finding with
  | raised f => exact (congrArg Prod.snd h).symm
  | shared => exact (congrArg Prod.snd h).symm
  | checked result =>
      have told := World.told_chained.map (g := fun _ => result.isTrue)
        (hcall.notify w.form.errors.table w.form.errors.listeners)
        (w.recording name (entryFor result))
      rw [← show _ = w' from congrArg Prod.snd h]
      exact told

end

namespace Form

/-- **One tier decides a field, and only its entry changes.**  Validating a name finds something for
it in one of the six ways of `Finds`, and does what comes of that.  If it gives something, that is
`true` exactly if the check that was made had the result `true`; it fails as the finding says, or as
a listener does.  As long as the functions of the client leave the form alone, nothing is called but
the check and the listeners, and what is found under the name afterwards is the entry for the
result, while all that is found under other names is as before.  Without a result of a check the
whole form is as before, and no listener is called. -/
theorem validateOne_decides (call : Caller) (name context : Value) (w : World) :
    ∃ finding reports w₁ outcome w',
      Finds call name context w finding reports w₁ ∧
      finding.concluded call name w₁ = (outcome, w') ∧
      (validateOne call name context).runIn w = (outcome, w') ∧
      (∀ valid, outcome = .ok valid → (valid = true ↔ finding = .checked (.bool true))) ∧
      (∀ f, outcome = .error f → finding = .raised f ∨ call.ListenerFails f) ∧
      (call.Secluded →
        (∀ sought, w'.form.errors.table.find? sought =
          (if name.same sought then finding.entry? else none).or
            (w.form.errors.table.find? sought)) ∧
        (finding.entry? = none → w'.form = w.form) ∧
        ∃ notices, w'.trace = notices ++ reports ++ w.trace ∧
          (∀ e ∈ notices, e.IsNotice) ∧ (finding.entry? = none → notices = [])) := by
  obtain ⟨finding, reports, w₁, finds, ran⟩ := exists_finds call name context w
  rcases concluded : finding.concluded call name w₁ with ⟨outcome, w'⟩
  rw [concluded] at ran
  refine ⟨finding, reports, w₁, outcome, w', finds, concluded, ran,
    fun _ => Finding.eq_true_iff_of_concluded concluded, ?_, fun hcall => ?_⟩
  · rintro f rfl
    exact Finding.raised_of_concluded concluded
  obtain ⟨same, reported⟩ := finds.secluded hcall
  have leaves := Finding.leaves_of_concluded hcall concluded
  cases recorded : finding.entry? with
  | none =>
      rw [recorded] at leaves
      obtain rfl : w' = w₁ := leaves
      refine ⟨fun sought => ?_, fun _ => same.form, [], reported, by simp, fun _ => rfl⟩
      rw [ite_self, Option.none_or, same.form]
  | some entry =>
      rw [recorded] at leaves
      obtain ⟨same', notices, told, all⟩ := leaves
      refine ⟨fun sought => ?_, nofun, notices, ?_, all, nofun⟩
      · rw [same'.form]
        show (w₁.form.errors.table.put name entry).find? sought = _
        rw [Table.find?_put (finds.isKey recorded), same.form]
        split <;> rfl
      · rw [told, List.append_assoc, ← reported]
        rfl

end Form

/-! ## A tier in the middle -/

namespace Session

/-- Functions that answer without a request leave the form alone. -/
theorem answering_secluded (answer : Nat → Arguments → Value) (perform : Request → FormM Reply) :
    (callWith (answering answer) perform).Secluded :=
  fun _ _ _ _ => ⟨⟨rfl, rfl, rfl⟩, rfl⟩

/-- Functions that answer with a number. -/
abbrev counting : Caller := callWith (answering fun _ _ => .int 1) (perform (answering fun _ _ =>
  .int 1) nestingLimit)

/-- A form whose override cannot be called, and whose rules come before the overrides of fields.  The
field `a` has no rules and a validator, there is an entry for `b`, and a listener. -/
def layered : World :=
  let validator : Hook := .function ⟨.validator (.str "a"), 0, 0⟩
  let errors := ErrorState.empty.record (.str "b") (.str "old")
  { World.initial ⟨.empty "standard", .empty "file"⟩
      { Form.ofOptions .default with
        tiers := [.formOverride (.value (.str "none")), .rules, .fieldOverride, .always]
        fields := FieldTable.empty.add (.str "a") ⟨0, none⟩
        errors := (errors.subscribe ⟨.listener (.str "l"), 0, 1⟩).2 } with
    objects := [{ (default : Field) with name := .str "a", validator := validator }]
    functions := 2 }

/-- The validator decides.  Its result counts as true, but is not `true`. -/
theorem validateOne_layered :
    counting.Secluded ∧ ∃ w',
      (Form.validateOne counting (.str "a") (.map [(.str "a", .int 7)])).runIn layered =
        (.ok false, w') ∧
      (∀ sought, w'.form.errors.table.find? sought =
        if (Value.str "a").same sought then some (.bool true)
        else layered.form.errors.table.find? sought) ∧
      ∃ notices, w'.trace = notices ++
          [.call (.validator (.str "a")) (.value (.int 7) (.map [(.str "a", .int 7)]))] ∧
        ∀ e ∈ notices, e.IsNotice := by
  have secluded := answering_secluded (fun _ _ => .int 1) (perform (answering fun _ _ => .int 1)
    nestingLimit)
  obtain ⟨finding, reports, w₁, outcome, w', finds, -, ran, -, -, alone⟩ :=
    Form.validateOne_decides counting (.str "a") (.map [(.str "a", .int 7)]) layered
  have decides : Decides layered.form.tiers (layered.field 0) none
      (.fieldOverride (layered.field 0).validator) :=
    Form.firstCheck?_eq_some_iff.mp rfl
  obtain ⟨rfl, rfl, rfl⟩ := finds.unique (.checked (e := ⟨0, none⟩) rfl decides rfl rfl)
  obtain ⟨found, -, notices, told, all, -⟩ := alone secluded
  obtain rfl : outcome = .ok false := congrArg Prod.fst ran.symm
  refine ⟨secluded, w', ran, fun sought => ?_, notices, ?_, all⟩
  · rw [found]
    split <;> rfl
  · rw [told, List.append_assoc]
    rfl

end Session

end FormRules
