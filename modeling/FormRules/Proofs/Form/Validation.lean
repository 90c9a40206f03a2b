/-
# Validation — what a pass keeps, when it gives a result, and whom it calls

One lemma for each function of `Form/Validation` and each of the three properties of operations:

    Keeps R       validation is made of reports, calls of overrides and validators, and recording for
                  names that are registered, so it keeps every relation that these keep (`Bears`);
                  in particular one that allows reports and recording (`Frame`) and that all
                  functions of the client keep
    Completes     recording and notifying give a result when the client's functions do, and the
                  detail can be written; so does the whole-form path, unless the override gives a
                  registered name a detail that cannot (`runIn_applyResult`)
    CallsOnly     a pass with the values `context` calls functions only with these values, and
                  listeners with a change (`validateAll_callsOnly`)

A function may be called for a check, as a listener, or to take over the outcome of a submission;
validation makes no call of the last kind.
-/
import FormRules.Form.Submission
import FormRules.Proofs.Form.Detail
import FormRules.Proofs.Form.Registrations

namespace FormRules

open FormM

namespace Arguments

/-- A call that hands over the outcome of a submission. -/
def IsOutcome : Arguments → Prop
  | .accepted _ | .rejected .. => True
  | _ => False

/-- A call of a validator or an override with the values `context`, or of a listener. -/
def Within (context : Value) : Arguments → Prop
  | .field _ _ c | .value _ c | .form c => c = context
  | .change .. => True
  | .accepted _ | .rejected .. => False

theorem Within.not_isOutcome {context : Value} {args : Arguments} (h : args.Within context) :
    ¬ args.IsOutcome := by
  cases args <;> simp_all [Within, IsOutcome]

/-- A call of a listener. -/
def IsChange : Arguments → Prop
  | .change .. => True
  | _ => False

end Arguments

/-- The report that a listener is called. -/
def Event.IsNotice : Event → Prop
  | .call _ args => args.IsChange
  | _ => False

/-- The world in which a value has been recorded for a name. -/
def World.recording (w : World) (name value : Value) : World :=
  w.changing fun f => { f with errors := f.errors.record name value }

/-- A relation between worlds that allows all reports but those that a listener is called. -/
structure Reporting (R : World → World → Prop) : Prop extends Chained R where
  noted : ∀ w e, ¬ e.IsNotice → R w (w.noted e)

namespace Reporting

variable {R : World → World → Prop} (hR : Reporting R)

include hR

theorem emit {e : Event} (he : ¬ e.IsNotice) : Keeps R (FormM.emit e) := fun w => hR.noted w e he

theorem log (level : Level) (message : String) : Keeps R (FormM.log level message) := hR.emit id

end Reporting

/-- A relation between worlds that allows what validation does by itself, as long as it records for
names that satisfy `P`. -/
structure Frame (P : Value → Prop) (R : World → World → Prop) : Prop extends Chained R where
  noted : ∀ w e, R w (w.noted e)
  recording : ∀ w name stored, stored.IsEntry → P name → name.isKey = true →
    R w (w.recording name stored)

theorem Frame.reporting {P : Value → Prop} {R : World → World → Prop} (hR : Frame P R) :
    Reporting R :=
  { hR with noted := fun w e _ => hR.noted w e }

namespace Form

variable {call : Caller} {R : World → World → Prop}

section SetError

variable {name detail stored : Value} {isError : Bool}

/-- Recording replaces the table first; whatever the listeners do comes after it. -/
theorem runIn_setError (h : name.isKey = true) (said : errorValue isError detail = .ok stored)
    (w : World) :
    (setError call name isError detail).runIn w =
      ((fun _ => stored) <$> notify call w.form.errors.table w.form.errors.listeners).runIn
        (w.recording name stored) := by
  simp [setError, h, said, runIn_bind, World.recording]

/-- What cannot be written is not recorded, and nobody is told. -/
theorem runIn_setError_of_error {f : Failure} (unsaid : errorValue isError detail = .error f)
    (w : World) : (setError call name isError detail).runIn w = (.error f, w) := by
  simp [setError, unsaid, runIn_bind]

/-- Nothing is recorded for what is no name. -/
theorem runIn_setError_of_not_isKey (h : ¬ name.isKey = true) (isError : Bool) (detail : Value)
    (w : World) : ∃ f, (setError call name isError detail).runIn w = (.error f, w) := by
  cases said : errorValue isError detail with
  | error f => exact ⟨f, runIn_setError_of_error said w⟩
  | ok stored => exact ⟨.typeMismatch, by simp [setError, said, h, runIn_bind]⟩

end SetError

/-- Calls of predicates are reported in order, the latest in front, and nothing else happens. -/
theorem runIn_emitCalls (calls : List RuleCall) (w : World) :
    (emitCalls calls).runIn w =
      (.ok (), { w with trace := (calls.map .rule).reverse ++ w.trace }) := by
  induction calls generalizing w with
  | nil => rfl
  | cons c rest ih =>
      have first : (emitCalls (c :: rest)).runIn w = (emitCalls rest).runIn (w.noted (.rule c)) := rfl
      rw [first, ih, List.map_cons, List.reverse_cons, List.append_assoc]
      rfl

/-- Evaluating compiled rules gives the outcome of the chain, with the registries and the messages
as they are at that moment. -/
theorem runIn_runChain (id : FieldId) (chain : Chain) (value : Value) (w : World) :
    ∃ w', w.Reports w' ∧ (runChain id chain value).runIn w =
      ((chain.run w.registries (w.field id).errorHelp w.form.defaultHelp value).2, w') := by
  rcases evaluated : chain.run w.registries (w.field id).errorHelp w.form.defaultHelp value with
    ⟨calls, outcome⟩
  refine ⟨_, ⟨(calls.map .rule).reverse, rfl⟩, ?_⟩
  simp [runChain, runIn_bind, evaluated, runIn_emitCalls]

/-- A field is decided by its first check, and the result is recorded. -/
theorem runIn_validateEntry {e : Entry} {name value context : Value} {check : Check} {w : World}
    (first : firstCheck? (w.field e.field) e.chain w.form.tiers = some check)
    (asked : context.entry name = .ok value) :
    (validateEntry call name context e).runIn w =
      (do
        let result ← runCheck call e.field name value context check
        let _ ← setError call name (!result.isTrue) (messageOf result)
        return result.isTrue).runIn w := by
  simp [validateEntry, runIn_bind, first, asked]

/-- What is neither `true` nor a mapping is not `true`. -/
theorem isTrue_eq_false_of_failuresOf? {result : Value} (h : failuresOf? result = none) :
    result.isTrue = false := by
  refine Bool.eq_false_iff.mpr fun affirms => ?_
  rw [Value.isTrue_iff.mp affirms] at h
  cases h

/-- An answer gives one of the names a detail that cannot be written. -/
def GivesMute (names : List Value) (failures : Table Value) : Prop :=
  ∃ e ∈ failures, names.any (·.same e.1) = true ∧ e.2.IsMute

instance (names : List Value) (failures : Table Value) : Decidable (GivesMute names failures) :=
  inferInstanceAs (Decidable (∃ e ∈ failures, _))

theorem not_givesMute_nil {names : List Value} : ¬ GivesMute names [] := nofun

theorem givesMute_cons_iff {names : List Value} {name detail : Value} {rest : Table Value} :
    GivesMute names ((name, detail) :: rest) ↔
      names.any (·.same name) = true ∧ detail.IsMute ∨ GivesMute names rest :=
  List.exists_mem_cons_iff ..

/-- An entry of a mapping is recorded if it is about one of the names, and reported otherwise. -/
theorem recordFailures_cons (call : Caller) (names : List Value) (name detail : Value)
    (rest : Table Value) :
    recordFailures call names ((name, detail) :: rest) =
      if names.any (·.same name) = true then
        setError call name true detail >>= fun _ => recordFailures call names rest
      else
        FormM.log .warning ("Form validator reported unknown field '" ++ name.text ++ "'") >>=
          fun _ => recordFailures call names rest :=
  rfl

/-! ## What validation keeps -/

section Calls

variable (hR : Chained R) (hcall : ∀ f args, ¬ args.IsOutcome → Keeps R (call f args))

include hR hcall

theorem callHook_keeps (args : Arguments) (h : ¬ args.IsOutcome) (hook : Hook) :
    Keeps R (callHook call hook args) := by
  cases hook with
  | function f => exact hcall f args h
  | value v => exact hR.throw _
  | ignore => exact hR.pure _

theorem notify_keeps (previous : Table Value) (subscriptions : List Subscription) :
    Keeps R (notify call previous subscriptions) := by
  induction subscriptions with
  | nil => exact hR.pure _
  | cons s rest ih =>
      exact hR.bind hR.form fun _ => hR.bind (hcall _ _ id) fun _ => ih

end Calls

section Reporting

variable (hR : Reporting R)

include hR

theorem emitCalls_keeps (calls : List RuleCall) : Keeps R (emitCalls calls) := by
  induction calls with
  | nil => exact hR.pure _
  | cons c rest ih => exact hR.bind (hR.emit id) fun _ => ih

theorem runChain_keeps (id : FieldId) (chain : Chain) (value : Value) :
    Keeps R (runChain id chain value) :=
  hR.bind hR.get fun _ => hR.bind (emitCalls_keeps hR _) fun _ => hR.lift _

end Reporting

/-- A relation that is kept by all that validation is made of: by reports, by calls of overrides and
validators, and by recording for names that satisfy `P`. -/
structure Bears (call : Caller) (P : Value → Prop) (R : World → World → Prop) : Prop
    extends Reporting R where
  calls : ∀ f args, ¬ args.IsOutcome → ¬ args.IsChange → Keeps R (call f args)
  records : ∀ name isError detail, P name → Keeps R (setError call name isError detail)

namespace Bears

variable {P : Value → Prop} (hR : Bears call P R)

include hR

theorem callHook (args : Arguments) (h : ¬ args.IsOutcome) (h' : ¬ args.IsChange) (hook : Hook) :
    Keeps R (callHook call hook args) := by
  cases hook with
  | function f => exact hR.calls f args h h'
  | value v => exact hR.throw _
  | ignore => exact hR.pure _

theorem runCheck (field : FieldId) (name value context : Value) (check : Check) :
    Keeps R (runCheck call field name value context check) := by
  cases check with
  | formOverride hook => exact hR.callHook (.field name value context) id id hook
  | fieldOverride hook => exact hR.callHook (.value value context) id id hook
  | rules chain => exact runChain_keeps hR.toReporting field chain value
  | always => exact hR.pure _

theorem validateEntry {name : Value} (hname : P name) (context : Value) (e : Entry) :
    Keeps R (validateEntry call name context e) := by
  refine hR.bind (hR.field _) fun field => hR.bind hR.form fun form => ?_
  cases firstCheck? field e.chain form.tiers with
  | none => exact hR.throw _
  | some check =>
      exact hR.bind (hR.lift _) fun value =>
        hR.bind (hR.runCheck _ name value context check) fun result =>
          hR.bind (hR.records name _ _ hname) fun _ => hR.pure _

theorem validateIn (fields : FieldTable)
    (hfields : ∀ name, fields.hasName name = .ok true → P name) (name context : Value) :
    Keeps R (validateIn call fields name context) := by
  unfold Form.validateIn
  split
  · rename_i found
    exact hR.validateEntry (hfields name (FieldTable.hasName_of_entry found)) context _
  · exact hR.bind (hR.log _ _) fun _ => hR.pure _
  · exact hR.throw _

theorem failing (fields : FieldTable)
    (hfields : ∀ name, fields.hasName name = .ok true → P name) (context : Value)
    (names : List Value) : Keeps R (failing call fields context names) := by
  induction names with
  | nil => exact hR.pure _
  | cons name rest ih =>
      exact hR.bind (hR.validateIn fields hfields name context) fun _ =>
        hR.bind ih fun _ => hR.pure _

theorem clearUnmentioned (failures : Table Value) {names : List Value}
    (hnames : ∀ name ∈ names, P name) : Keeps R (clearUnmentioned call failures names) := by
  induction names with
  | nil => exact hR.pure _
  | cons name rest ih =>
      obtain ⟨hname, hrest⟩ := List.forall_mem_cons.mp hnames
      unfold Form.clearUnmentioned
      exact .ite (hR.bind (hR.records name _ _ hname) fun _ => ih hrest) (ih hrest)

/-- A failure is recorded under the name that the result mentions, which may be another key than
the registered one, but is the same as keys go. -/
theorem recordFailures {names : List Value}
    (hnames : ∀ name, names.any (·.same name) = true → P name) (failures : Table Value) :
    Keeps R (recordFailures call names failures) := by
  induction failures with
  | nil => exact hR.pure _
  | cons e rest ih =>
      obtain ⟨name, detail⟩ := e
      unfold Form.recordFailures
      split
      · rename_i mentioned
        exact hR.bind (hR.records name _ _ (hnames name mentioned)) fun _ => ih
      · exact hR.bind (hR.log _ _) fun _ => ih

theorem applyResult {names : List Value}
    (hnames : ∀ name, names.any (·.same name) = true → P name) (result : Value) :
    Keeps R (applyResult call names result) := by
  have each (name : Value) (h : name ∈ names) : P name :=
    hnames name (List.any_eq_true.mpr ⟨name, h, Value.same_self name⟩)
  unfold Form.applyResult
  split
  · exact hR.bind (hR.clearUnmentioned _ each) fun _ =>
      hR.bind (hR.recordFailures hnames _) fun _ => hR.pure _
  · exact hR.bind (hR.log _ _) fun _ => hR.pure _

/-- A pass records for names that are registered when it begins. -/
theorem validateAll (context : Value) {w : World}
    (hnames : ∀ name, w.form.fields.hasName name = .ok true → P name) :
    R w ((validateAll call context).runIn w).2 := by
  have mentioned (name : Value) (h : w.form.fields.keys.any (·.same name) = true) : P name :=
    hnames name (FieldTable.hasName_iff.mpr (List.any_eq_true.mp h))
  rw [Form.validateAll, runIn_bind_ok (runIn_form w)]
  refine Keeps.ite ?_ ?_ w
  · exact hR.bind (hR.callHook (.form context) id id _) fun result =>
      hR.applyResult mentioned result
  · exact hR.bind (hR.failing _ hnames context _) fun _ => hR.pure _

end Bears

section Keeps

variable {P : Value → Prop} (hR : Frame P R)
  (hcall : ∀ f args, ¬ args.IsOutcome → Keeps R (call f args))

include hR hcall

theorem setError_keeps (name : Value) (hname : P name) (isError : Bool) (detail : Value) :
    Keeps R (setError call name isError detail) := by
  intro w
  by_cases h : name.isKey = true
  · cases said : errorValue isError detail with
    | error f =>
        rw [runIn_setError_of_error said]
        exact hR.refl w
    | ok stored =>
        rw [runIn_setError h said]
        exact hR.trans (hR.recording w name stored (isEntry_of_errorValue said) hname h)
          (hR.map (notify_keeps hR.toChained hcall _ _) _)
  · obtain ⟨f, ran⟩ := runIn_setError_of_not_isKey h isError detail w
    rw [ran]
    exact hR.refl w

theorem bears_of_frame : Bears call P R :=
  { hR.reporting with
    calls := fun f args h _ => hcall f args h
    records := fun name isError detail hname => setError_keeps hR hcall name hname isError detail }

theorem runCheck_keeps (field : FieldId) (name value context : Value) (check : Check) :
    Keeps R (runCheck call field name value context check) :=
  (bears_of_frame hR hcall).runCheck field name value context check

theorem validateIn_keeps (fields : FieldTable)
    (hfields : ∀ name, fields.hasName name = .ok true → P name) (name context : Value) :
    Keeps R (validateIn call fields name context) :=
  (bears_of_frame hR hcall).validateIn fields hfields name context

theorem validateAll_keeps (context : Value) {w : World}
    (hnames : ∀ name, w.form.fields.hasName name = .ok true → P name) :
    R w ((validateAll call context).runIn w).2 :=
  (bears_of_frame hR hcall).validateAll context hnames

end Keeps

/-! ## When validation gives a result -/

section Completes

variable (hcall : ∀ f args, ¬ args.IsOutcome → Completes (call f args))

include hcall

theorem callHook_completes (args : Arguments) (h : ¬ args.IsOutcome) {hook : Hook}
    (hhook : hook.isCallable = true) : Completes (callHook call hook args) := by
  cases hook with
  | function f => exact hcall f args h
  | value v => exact absurd hhook Bool.false_ne_true
  | ignore => exact .pure _

theorem notify_completes (previous : Table Value) (subscriptions : List Subscription) :
    Completes (notify call previous subscriptions) := by
  induction subscriptions with
  | nil => exact .pure _
  | cons s rest ih => exact .bind .form fun _ => .bind (hcall _ _ id) fun _ => ih

theorem setError_completes {name detail stored : Value} {isError : Bool} (h : name.isKey = true)
    (said : errorValue isError detail = .ok stored) :
    Completes (setError call name isError detail) := by
  intro w
  obtain ⟨_, w', notified⟩ :=
    notify_completes hcall w.form.errors.table w.form.errors.listeners (w.recording name stored)
  refine ⟨stored, w', ?_⟩
  rw [runIn_setError h said, runIn_map, notified]
  rfl

theorem clearUnmentioned_completes (failures : Table Value) {names : List Value}
    (hnames : ∀ name ∈ names, name.isKey = true) :
    Completes (clearUnmentioned call failures names) := by
  induction names with
  | nil => exact .pure _
  | cons name rest ih =>
      have later := ih fun n hn => hnames n (List.mem_cons_of_mem _ hn)
      unfold clearUnmentioned
      split
      · exact .bind (setError_completes hcall (hnames name List.mem_cons_self) rfl) fun _ => later
      · exact later

/-- Only names that are registered are recorded, and those can be looked up.  Recording stops at a
detail that cannot be written. -/
theorem runIn_recordFailures {names : List Value} (hnames : ∀ name ∈ names, name.isKey = true)
    (failures : Table Value) (w : World) :
    ∃ w', (recordFailures call names failures).runIn w =
      (if GivesMute names failures then .error .longInteger else .ok (), w') := by
  induction failures generalizing w with
  | nil => exact ⟨w, by rw [if_neg not_givesMute_nil]; rfl⟩
  | cons e rest ih =>
      obtain ⟨name, detail⟩ := e
      rw [recordFailures_cons]
      by_cases found : names.any (·.same name) = true
      · obtain ⟨n, hn, same⟩ := List.any_eq_true.mp found
        have key : name.isKey = true := Value.isKey_of_same n name same (hnames n hn)
        rw [if_pos found]
        by_cases mute : detail.IsMute
        · refine ⟨w, ?_⟩
          rw [runIn_bind_error (runIn_setError_of_error (errorValue_of_isMute mute) w),
            if_pos (givesMute_cons_iff.mpr (.inl ⟨found, mute⟩))]
        · obtain ⟨stored, said⟩ : ∃ stored, errorValue true detail = .ok stored :=
            exists_errorValue fun _ => mute
          obtain ⟨_, w₁, recorded⟩ := setError_completes hcall key said w
          obtain ⟨w₂, later⟩ := ih w₁
          refine ⟨w₂, ?_⟩
          simp only [runIn_bind_ok recorded, later, givesMute_cons_iff, mute, and_false, false_or]
      · obtain ⟨w₁, later⟩ := ih (w.noted _)
        refine ⟨w₁, ?_⟩
        rw [if_neg found, runIn_bind_ok (runIn_log _ _ w), later]
        simp only [givesMute_cons_iff, found, Bool.false_eq_true, false_and, false_or]

/-- Whatever an override has answered, its answer is taken over, unless it gives one of the names a
detail that cannot be written: `true` is valid, and the names that fail are those that it
mentions. -/
theorem runIn_applyResult {names : List Value} (hnames : ∀ name ∈ names, name.isKey = true)
    (result : Value) (w : World) :
    ∃ w', (applyResult call names result).runIn w =
      (if GivesMute names ((failuresOf? result).getD []) then .error .longInteger
        else .ok ⟨result.isTrue, ((failuresOf? result).getD []).keys⟩, w') := by
  unfold applyResult
  split
  · rename_i failures mentioned
    obtain ⟨_, w₁, cleared⟩ := clearUnmentioned_completes hcall failures hnames w
    obtain ⟨w₂, recorded⟩ := runIn_recordFailures hcall hnames failures w₁
    refine ⟨w₂, ?_⟩
    rw [runIn_bind_ok cleared, runIn_bind, recorded, mentioned, Option.getD_some]
    by_cases mute : GivesMute names failures
    · rw [if_pos mute, if_pos mute]
    · rw [if_neg mute, if_neg mute]
      rfl
  · rename_i other
    rw [other, isTrue_eq_false_of_failuresOf? other, Option.getD_none, if_neg not_givesMute_nil]
    exact ⟨w.noted _, rfl⟩

end Completes

/-! ## Whom validation calls -/

section CallsOnly

variable (context : Value)

theorem notify_callsOnly (previous : Table Value) (subscriptions : List Subscription) :
    CallsOnly (·.Within context) (notify · previous subscriptions) := by
  induction subscriptions with
  | nil => exact .const _
  | cons s rest ih =>
      refine .bind (.const _) fun form => .bind ?_ fun _ => ih
      exact fun call call' agree => agree s.listener _ trivial

theorem setError_callsOnly (name : Value) (isError : Bool) (detail : Value) :
    CallsOnly (·.Within context) (setError · name isError detail) := by
  intro call call' agree
  have notified (previous : Table Value) (subscriptions : List Subscription) :=
    notify_callsOnly context previous subscriptions call call' agree
  simp only [setError, notified]

theorem runCheck_callsOnly (id : FieldId) (name value : Value) (check : Check) :
    CallsOnly (·.Within context) (runCheck · id name value context check) := by
  cases check with
  | formOverride hook =>
      exact CallsOnly.callHook (P := (·.Within context)) (.field name value context) rfl hook
  | fieldOverride hook =>
      exact CallsOnly.callHook (P := (·.Within context)) (.value value context) rfl hook
  | rules chain => exact .const _
  | always => exact .const _

theorem validateIn_callsOnly (fields : FieldTable) (name : Value) :
    CallsOnly (·.Within context) (validateIn · fields name context) := by
  intro call call' agree
  have checked (id : FieldId) (value : Value) (check : Check) :=
    runCheck_callsOnly context id name value check call call' agree
  have recorded (isError : Bool) (detail : Value) :=
    setError_callsOnly context name isError detail call call' agree
  simp only [validateIn, validateEntry, checked, recorded]

theorem failing_callsOnly (fields : FieldTable) (names : List Value) :
    CallsOnly (·.Within context) (failing · fields context names) := by
  induction names with
  | nil => exact .const _
  | cons name rest ih =>
      exact .bind (validateIn_callsOnly context fields name) fun _ => .bind ih fun _ => .const _

theorem clearUnmentioned_callsOnly (failures : Table Value) (names : List Value) :
    CallsOnly (·.Within context) (clearUnmentioned · failures names) := by
  induction names with
  | nil => exact .const _
  | cons name rest ih =>
      intro call call' agree
      simp only [clearUnmentioned, ih call call' agree,
        setError_callsOnly context name false .null call call' agree]

theorem recordFailures_callsOnly (names : List Value) (failures : Table Value) :
    CallsOnly (·.Within context) (recordFailures · names failures) := by
  induction failures with
  | nil => exact .const _
  | cons e rest ih =>
      intro call call' agree
      simp only [recordFailures, ih call call' agree,
        setError_callsOnly context e.1 true e.2 call call' agree]

theorem applyResult_callsOnly (names : List Value) (result : Value) :
    CallsOnly (·.Within context) (applyResult · names result) := by
  intro call call' agree
  have cleared (failures : Table Value) :=
    clearUnmentioned_callsOnly context failures names call call' agree
  have recorded (failures : Table Value) :=
    recordFailures_callsOnly context names failures call call' agree
  simp only [applyResult, cleared, recorded]

/-- A pass calls validators and overrides with its own values only, and takes over no outcome. -/
theorem validateAll_callsOnly : CallsOnly (·.Within context) (validateAll · context) := by
  intro call call' agree
  have asked (hook : Hook) :=
    CallsOnly.callHook (P := (·.Within context)) (.form context) rfl hook call call' agree
  have applied (names : List Value) (result : Value) :=
    applyResult_callsOnly context names result call call' agree
  have failed (fields : FieldTable) (names : List Value) :=
    failing_callsOnly context fields names call call' agree
  simp only [validateAll, asked, applied, failed]

end CallsOnly

end Form

end FormRules
