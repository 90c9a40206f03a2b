/-
# Requests — what carrying out a request keeps

Requests do a few kinds of things by themselves, and `step_keeps_of` says once that every request
keeps a relation between worlds that allows them:

    what a request does                                     asked for in
    reports other than that a listener is called            `Reporting`
    fields, functions, calls, registries                    `Aside`
    registrations                                           `Enrolling`
    subscriptions                                           `Attending`
    checks of names in the form or in a snapshot, passes    `Validates`
    snapshots of the registrations                          `step_keeps_of`
    options, messages and tiers                             `step_keeps_of`, where a request sets them
    errors that the client records itself                   `step_keeps_of`, where a request does so

`step_keeps` is the case of a relation that does not look at registrations (`Listening`).

The functions of the client make requests too, one level of nesting deeper.  So a relation is kept
at every depth if scripts make only requests that keep it (`perform_keeps`).  Opening a form is no
request, but is made of the same parts (`open_keeps`).
-/
import FormRules.Proofs.Form.Client
import FormRules.Proofs.Outcome
import FormRules.Session.Opening

namespace FormRules

open FormM World

variable {α β : Type} {R : World → World → Prop}

namespace Chained

/-- An operation goes on keeping what it keeps when a reply is made of its result. -/
theorem returning (hR : Chained R) {m : FormM α} (hm : Keeps R m) (g : α → β) :
    Keeps R (m >>= fun a => Pure.pure (g a)) :=
  hR.bind hm fun _ => hR.pure _

end Chained

/-! ## Relations that allow what requests do -/

/-- A relation between worlds that looks at nothing but the form, its past, the snapshots and the
reports that listeners are called. -/
structure Aside (R : World → World → Prop) : Prop extends Reporting R where
  aside : ∀ {w w' : World}, w'.form = w.form → w'.past = w.past →
    w'.held.snapshots = w.held.snapshots → w'.trace = w.trace → R w w'

/-- A relation between worlds that allows other registrations. -/
structure Tolerant (R : World → World → Prop) : Prop extends Aside R where
  changing : ∀ w g, (g w.form).errors = w.form.errors → (g w.form).setup = w.form.setup →
    R w (w.changing g)

/-- A relation between worlds that allows other subscriptions as well. -/
structure Listening (R : World → World → Prop) : Prop extends Tolerant R where
  subscribing : ∀ (w : World) listener,
    R w (w.changing fun f => { f with errors := (f.errors.subscribe listener).2 })
  unsubscribing : ∀ (w : World) s,
    R w (w.changing fun f => { f with errors := f.errors.unsubscribe s })

/-- A relation between worlds that allows registrations to come and to go one after the other. -/
structure Enrolling (R : World → World → Prop) : Prop extends Aside R where
  adding : ∀ (w : World) (name : Value) e, name.isKey = true →
    R w (w.changing fun f => { f with fields := f.fields.add name e })
  removing : ∀ (w : World) (name : Value) id, name.isKey = true →
    R w (w.changing fun f => { f with fields := f.fields.remove name id })

/-- A relation between worlds that allows subscriptions to begin and to end as well. -/
structure Attending (R : World → World → Prop) : Prop extends Enrolling R where
  subscribing : ∀ (w : World) listener,
    R w (w.changing fun f => { f with errors := (f.errors.subscribe listener).2 })
  unsubscribing : ∀ (w : World) s,
    R w (w.changing fun f => { f with errors := f.errors.unsubscribe s })

theorem Tolerant.enrolling (hR : Tolerant R) : Enrolling R :=
  { hR.toAside with
    adding := fun w _ _ _ => hR.changing w _ rfl rfl
    removing := fun w _ _ _ => hR.changing w _ rfl rfl }

theorem Listening.attending (hR : Listening R) : Attending R :=
  { hR.toTolerant.enrolling with
    subscribing := hR.subscribing
    unsubscribing := hR.unsubscribing }

/-- The world in which the client has taken a snapshot of the registrations. -/
def World.snapped (w : World) (id : String) : World :=
  { w with held := { w.held with snapshots := (id, w.form.fields) :: w.held.snapshots } }

/-- Validation keeps a relation, and so do the functions of the client. -/
structure Caller.Validates (call : Caller) (R : World → World → Prop) : Prop where
  calls : ∀ f args, ¬ args.IsChange → Keeps R (call f args)
  checks : ∀ (w : World) fields name context,
    (fields = w.form.fields ∨ ∃ id, (id, fields) ∈ w.held.snapshots) →
      R w ((Form.validateIn call fields name context).runIn w).2
  passes : ∀ context, Keeps R (Form.validateAll call context)

/-- Validation keeps a relation that allows recording for any name. -/
theorem Frame.validates (hR : Frame (fun _ => True) R) {call : Caller}
    (hcall : ∀ f args, Keeps R (call f args)) : call.Validates R where
  calls f args _ := hcall f args
  checks w fields name context _ :=
    Form.validateIn_keeps hR (fun f args _ => hcall f args) fields (fun _ _ => trivial) name
      context w
  passes context _ :=
    Form.validateAll_keeps hR (fun f args _ => hcall f args) context fun _ _ => trivial

namespace Aside

variable (hR : Aside R)

include hR

theorem setField (id : FieldId) (f : Field) : Keeps R (FormM.setField id f) :=
  fun _ => hR.aside rfl rfl rfl rfl

theorem newField (f : Field) : Keeps R (FormM.newField f) := fun _ => hR.aside rfl rfl rfl rfl

theorem newFunction (role : Role) (script : Nat) : Keeps R (FormM.newFunction role script) :=
  fun _ => hR.aside rfl rfl rfl rfl

theorem modify {g : World → World} (form : ∀ w, (g w).form = w.form)
    (past : ∀ w, (g w).past = w.past)
    (snapshots : ∀ w, (g w).held.snapshots = w.held.snapshots)
    (trace : ∀ w, (g w).trace = w.trace) : Keeps R (modify g : FormM Unit) :=
  fun w => hR.aside (form w) (past w) (snapshots w) (trace w)

end Aside

/-- Registrations are found only under names that can be looked up. -/
theorem FieldTable.isKey_of_bucket? {t : FieldTable} {name : Value} {found : Option (List Entry)}
    (h : t.bucket? name = .ok found) : name.isKey = true := by
  unfold bucket? at h
  split at h
  · assumption
  · cases h

namespace Form

/-! ## Asking a form -/

section Asking

variable (hR : Chained R)

include hR

theorem fieldNamed_keeps (name : Value) : Keeps R (fieldNamed name) :=
  hR.bind hR.form fun _ => hR.returning (hR.lift _) _

theorem valueOf_keeps (name : Value) : Keeps R (valueOf name) :=
  hR.bind (fieldNamed_keeps hR name) fun _ => hR.returning (hR.field _) _

theorem uniqueField?_keeps (name : Value) : Keeps R (uniqueField? name) := by
  refine hR.bind hR.form fun form => hR.bind (hR.lift _) fun known => .ite (hR.pure _) ?_
  refine hR.bind (hR.lift _) fun shared => .ite (hR.pure _) ?_
  exact hR.bind (fieldNamed_keeps hR name) fun _ => hR.returning (hR.field _) _

theorem triggerEvent_keeps (name : Value) : Keeps R (triggerEvent name) := by
  refine hR.bind hR.form fun form => hR.bind (uniqueField?_keeps hR name) fun field => ?_
  cases field with
  | none => exact hR.pure _
  | some field => exact .ite (hR.pure _) (hR.pure _)

theorem initialValue_keeps (name : Value) : Keeps R (initialValue name) :=
  hR.bind hR.form fun _ => hR.lift _

theorem recorded?_keeps (name : Value) : Keeps R (recorded? name) :=
  .ite (hR.bind (hR.throw _) fun _ => hR.returning hR.form _) (hR.returning hR.form _)

theorem hasError_keeps (name : Value) : Keeps R (hasError name) :=
  hR.returning (recorded?_keeps hR name) _

theorem helpFor_keeps (name error : Value) : Keeps R (helpFor name error) := by
  refine .ite (hR.pure _) (.ite (hR.pure _) ?_)
  refine hR.bind (uniqueField?_keeps hR name) fun field => ?_
  cases field <;> exact hR.pure _

theorem statusOf_keeps (name : Value) : Keeps R (statusOf name) := by
  refine hR.bind (hasError_keeps hR name) fun error => hR.bind (helpFor_keeps hR name error)
    fun help => hR.bind (initialValue_keeps hR name) fun initial => ?_
  exact hR.returning (uniqueField?_keeps hR name) _

theorem compileRules_keeps (field : Field) : Keeps R (compileRules field) := by
  unfold compileRules
  split
  · exact hR.bind hR.get fun _ => hR.returning (hR.lift _) _
  · exact hR.pure _

end Asking

theorem valuesOf_keeps (hR : Reporting R) (names : List Value) : Keeps R (valuesOf names) := by
  induction names with
  | nil => exact hR.pure _
  | cons name rest ih =>
      have onward (value : Value) : Keeps R (do
          return (name, value) :: (← valuesOf rest)) := hR.returning ih _
      refine hR.bind hR.form fun form => ?_
      rcases form.fields.entry name with (f | e)
      · cases f with
        | ambiguous n count => exact hR.bind (hR.log _ _) fun _ => hR.bind (hR.pure _) onward
        | _ => exact hR.bind (hR.throw _) onward
      · exact hR.bind (hR.field _) fun _ => hR.bind (hR.pure _) onward

/-- Collecting the values does nothing but report. -/
theorem values_keeps (hR : Reporting R) : Keeps R values :=
  hR.bind hR.form fun form => valuesOf_keeps hR form.fields.keys

/-! ## Registering and unregistering -/

section Registering

variable (hR : Enrolling R)

include hR

theorem addField_keeps (id : FieldId) : Keeps R (addField id) := by
  refine hR.bind (hR.field id) fun field => ?_
  have named : Keeps R (do
      let chain ← compileRules field
      let bucket ← FormM.lift ((← FormM.form).fields.bucket? field.name)
      FormM.modifyForm fun f => { f with fields := f.fields.add field.name ⟨id, chain⟩ }
      let count := (bucket.getD []).length + 1
      if 1 < count then FormM.log .warning (sharedName field.name count)) :=
    hR.bind (compileRules_keeps hR.toChained field) fun _ => hR.bind hR.form fun _ =>
      hR.lifting fun _ found =>
        hR.bind (fun w => hR.adding w _ _ (FieldTable.isKey_of_bucket? found)) fun _ =>
          .ite (hR.log _ _) (hR.pure _)
  exact .ite (hR.bind (hR.throw _) fun _ => named) named

theorem registerField_keeps (id : FieldId) : Keeps R (registerField id) := by
  refine hR.bind (addField_keeps hR id) fun _ => hR.bind (hR.field id) fun field =>
    hR.bind hR.form fun form => hR.bind (hR.lift _) fun modelled => .ite ?_ (hR.pure _)
  exact hR.bind (hR.lift _) fun _ => hR.bind (hR.lift _) fun _ => hR.setField id _

theorem unregisterField_keeps (id : FieldId) : Keeps R (unregisterField id) :=
  hR.bind (hR.field id) fun _ => hR.bind hR.form fun _ => hR.lifting fun _ found => fun w =>
    hR.removing w _ _ (FieldTable.isKey_of_bucket? found)

end Registering

/-! ## Validating and submitting -/

section Validating

variable {call : Caller} (hR : Aside R) (hcall : call.Validates R)

include hR hcall

omit hR in
theorem validateOne_keeps (name context : Value) : Keeps R (validateOne call name context) :=
  .reading fun w => hcall.checks w _ name context (.inl rfl)

theorem validateField_keeps (name : Value) : Keeps R (validateField call name) :=
  hR.bind (values_keeps hR.toReporting) fun _ => validateOne_keeps hcall name _

theorem validate_keeps : Keeps R (validate call) :=
  hR.bind (values_keeps hR.toReporting) fun _ => hcall.passes _

theorem handleEvent_keeps (name event : Value) : Keeps R (handleEvent call name event) := by
  refine hR.bind (triggerEvent_keeps hR.toChained name) fun trigger => .ite ?_ (hR.pure _)
  exact hR.returning (validateField_keeps hR hcall name) _

theorem dispatch_keeps (present : Table Value) (verdict : Verdict) :
    Keeps R (dispatch call present verdict) := by
  have handOver (hook : Hook) (args : Arguments) (h : ¬ args.IsChange) :
      Keeps R (callHook call hook args) := by
    cases hook with
    | function f => exact hcall.calls f args h
    | value v => exact hR.throw _
    | ignore => exact hR.pure _
  refine .ite ?_ (hR.bind (hR.lift _) fun names => ?_)
  all_goals
    exact hR.bind (hR.log _ _) fun _ => hR.bind hR.form fun _ =>
      hR.bind (handOver _ _ id) fun _ => hR.pure _

theorem submit_keeps : Keeps R (submit call) :=
  hR.bind (values_keeps hR.toReporting) fun _ => hR.bind (hcall.passes _) fun _ =>
    hR.bind (dispatch_keeps hR hcall _ _) fun _ => hR.pure _

end Validating

end Form

namespace Session

/-! ## What the client holds -/

section Holding

theorem heldField_keeps (hR : Chained R) (id : String) : Keeps R (heldField id) := by
  refine hR.bind hR.get fun w => ?_
  cases w.held.fields.lookup id with
  | none => exact hR.throw _
  | some f => exact hR.pure f

theorem resolve_keeps (hR : Chained R) (target : Target) : Keeps R (resolve target) := by
  cases target with
  | held id => exact heldField_keeps hR id
  | named name => exact Form.fieldNamed_keeps hR name

theorem replyCurrent_keeps (hR : Chained R) (f : FieldId) : Keeps R (replyCurrent f) :=
  hR.returning (hR.field f) _

theorem compiledText_keeps (hR : Chained R) (e : Entry) : Keeps R (compiledText e) :=
  hR.returning (hR.field _) _

theorem heldSnapshot_keeps (hR : Chained R) (id : String) : Keeps R (heldSnapshot id) := by
  refine hR.bind hR.get fun w => ?_
  cases w.held.snapshots.lookup id with
  | none => exact hR.throw _
  | some s => exact hR.pure s

/-- What an operation does with a snapshot is asked for where the client holds it. -/
theorem withSnapshot_keeps (hR : Chained R) {id : String} {f : FieldTable → FormM β}
    (h : ∀ w fields, (id, fields) ∈ w.held.snapshots → R w ((f fields).runIn w).2) :
    Keeps R (heldSnapshot id >>= f) := by
  intro w
  cases found : w.held.snapshots.lookup id with
  | none =>
      have missing : (heldSnapshot id).runIn w = (.error (.noEntry (.str id)), w) := by
        simp [heldSnapshot, runIn_bind, found]
      rw [runIn_bind_error missing]
      exact hR.refl w
  | some fields =>
      have here : (heldSnapshot id).runIn w = (.ok fields, w) := by
        simp [heldSnapshot, runIn_bind, found]
      obtain ⟨before, after, split, -⟩ := List.lookup_eq_some_iff.mp found
      rw [runIn_bind_ok here]
      exact h w fields (by rw [split]; simp)

theorem takeHook_keeps (hR : Aside R) (role : Role) (source : HookSource) :
    Keeps R (takeHook role source) := by
  cases source with
  | value v => exact hR.pure _
  | script n => exact hR.returning (hR.newFunction role n) _

theorem makeField_keeps (hR : Aside R) (id : String) (s : FieldSource) :
    Keeps R (makeField id s) :=
  hR.bind (takeHook_keeps hR _ _) fun _ => hR.bind (hR.newField _) fun f =>
    hR.bind (hR.modify (fun _ => rfl) (fun _ => rfl) (fun _ => rfl) fun _ => rfl) fun _ =>
      hR.pure f

theorem subscribeHeld_keeps (hR : Attending R) (id : String) (listener : Callback)
    (before : List Subscription) : Keeps R (subscribeHeld id listener before) :=
  .reading fun w => hR.bindAt (hR.subscribing w listener) fun _ =>
    hR.bind (hR.modify (fun _ => rfl) (fun _ => rfl) (fun _ => rfl) fun _ => rfl) fun _ => hR.pure _

theorem subscribe_keeps (hR : Attending R) (id : String) (script : Nat) :
    Keeps R (subscribe id script) := by
  refine hR.bind hR.get fun w => ?_
  split
  · exact subscribeHeld_keeps hR id _ _
  · exact hR.bind (hR.newFunction _ _) fun _ => subscribeHeld_keeps hR id _ _

theorem unsubscribe_keeps (hR : Attending R) (id : String) (handle : Nat) :
    Keeps R (unsubscribe id handle) := by
  refine hR.bind hR.get fun w => ?_
  split
  · exact hR.throw _
  · split
    · exact hR.throw _
    · exact hR.bind (fun w => hR.unsubscribing w _) fun _ => hR.pure _

end Holding

/-! ## Requests -/

/-- Requests other than those that set options, messages and tiers. -/
def Request.LeavesSetup : Request → Prop
  | .setOption .. | .setDefaultHelp _ | .setTiers _ => False
  | _ => True

/-- Requests other than the one that records an error by itself. -/
def Request.LeavesErrors : Request → Prop
  | .setError .. => False
  | _ => True

/-- Carrying out a request keeps a relation that allows what the request does. -/
theorem step_keeps_of (hR : Attending R) {call : Caller} (hcall : call.Validates R) {r : Request}
    (hsnapshot : ∀ w id, R w (w.snapped id))
    (hsetup : ¬ r.LeavesSetup → ∀ g : Form → Form, (∀ f, (g f).errors = f.errors) →
      (∀ f, (g f).fields = f.fields) → Keeps R (FormM.modifyForm g))
    (herrors : ¬ r.LeavesErrors → ∀ name isError detail,
      Keeps R (Form.setError call name isError detail)) :
    Keeps R (step call r) := by
  cases r with
  | make id source =>
      exact hR.bind (makeField_keeps hR.toAside id source) fun _ => hR.returning (hR.field _) _
  | register id source =>
      have registered (f : FieldId) : Keeps R (do
          Form.registerField f
          replyCurrent f) :=
        hR.bind (Form.registerField_keeps hR.toEnrolling f) fun _ => replyCurrent_keeps hR.toChained f
      cases source with
      | none => exact hR.bind (heldField_keeps hR.toChained id) registered
      | some s => exact hR.bind (makeField_keeps hR.toAside id s) registered
  | unregister target =>
      exact hR.bind (resolve_keeps hR.toChained target) fun f =>
        hR.returning (Form.unregisterField_keeps hR.toEnrolling f) _
  | set target v =>
      exact hR.bind (resolve_keeps hR.toChained target) fun f => hR.bind (hR.field f) fun _ =>
        hR.bind (hR.lift _) fun _ => hR.bind (hR.setField f _) fun _ =>
          replyCurrent_keeps hR.toChained f
  | assign target part v =>
      exact hR.bind (resolve_keeps hR.toChained target) fun f => hR.bind (hR.field f) fun _ =>
        hR.bind (hR.setField f _) fun _ => replyCurrent_keeps hR.toChained f
  | assignValidator target source =>
      exact hR.bind (resolve_keeps hR.toChained target) fun f =>
        hR.bind (takeHook_keeps hR.toAside _ source) fun _ => hR.bind (hR.field f) fun _ =>
          hR.bind (hR.setField f _) fun _ => replyCurrent_keeps hR.toChained f
  | touch target =>
      exact hR.bind (resolve_keeps hR.toChained target) (replyCurrent_keeps hR.toChained)
  | names | sizes => exact hR.returning hR.form _
  | contains name | isAmbiguous name =>
      exact hR.bind hR.form fun _ => hR.returning (hR.lift _) _
  | compiled name =>
      refine hR.bind hR.form fun _ => hR.bind (hR.lift _) fun e =>
        hR.bind (compiledText_keeps hR.toChained e) fun text => ?_
      cases text <;> exact hR.pure _
  | value name => exact hR.returning (Form.valueOf_keeps hR.toChained name) _
  | snapshot id =>
      exact .reading fun w => hR.bindAt (hsnapshot w id) fun _ => hR.pure _
  | describeSnapshot id name =>
      exact hR.bind (heldSnapshot_keeps hR.toChained id) fun _ => hR.returning (hR.lift _) _
  | readSnapshot id name =>
      exact hR.bind (heldSnapshot_keeps hR.toChained id) fun _ => hR.bind (hR.lift _) fun _ =>
        hR.bind (hR.lift _) fun e => hR.bind (hR.field _) fun _ =>
          hR.returning (compiledText_keeps hR.toChained e) _
  | validateInSnapshot id name context =>
      exact withSnapshot_keeps hR.toChained fun w fields held =>
        hR.bindAt (hcall.checks w fields name context (.inr ⟨id, held⟩)) fun _ => hR.pure _
  | values => exact hR.returning (Form.values_keeps hR.toReporting) _
  | trigger name => exact hR.returning (Form.triggerEvent_keeps hR.toChained name) _
  | event name event =>
      refine hR.bind (Form.handleEvent_keeps hR.toAside hcall name event) fun valid => ?_
      cases valid <;> exact hR.pure _
  | validateField name =>
      exact hR.returning (Form.validateField_keeps hR.toAside hcall name) _
  | validate => exact hR.returning (Form.validate_keeps hR.toAside hcall) _
  | validateAll context => exact hR.returning (hcall.passes context) _
  | validateOne name context =>
      exact hR.returning (Form.validateOne_keeps hcall name context) _
  | submit => exact hR.returning (Form.submit_keeps hR.toAside hcall) _
  | hasError name => exact hR.returning (Form.hasError_keeps hR.toChained name) _
  | initial name => exact hR.returning (Form.initialValue_keeps hR.toChained name) _
  | status name => exact hR.returning (Form.statusOf_keeps hR.toChained name) _
  | error name => exact hR.returning (Form.recorded?_keeps hR.toChained name) _
  | setError name isError detail =>
      exact hR.bind hR.form fun _ => hR.bind (herrors id name _ detail) fun _ =>
        hR.returning hR.form _
  | subscribe id script => exact subscribe_keeps hR id script
  | unsubscribe id handle => exact unsubscribe_keeps hR id handle
  | setOption | setDefaultHelp | setTiers =>
      exact hR.bind (hsetup id _ (fun _ => rfl) fun _ => rfl) fun _ => hR.pure _
  | addRule | clearRules | registerBuiltins =>
      exact hR.bind (hR.modify (fun _ => rfl) (fun _ => rfl) (fun _ => rfl) fun _ => rfl) fun _ =>
        hR.pure _

/-- Carrying out a request keeps a relation that allows other registrations and subscriptions. -/
theorem step_keeps (hR : Listening R) {call : Caller} (hcall : call.Validates R) {r : Request}
    (hsnapshot : ∀ w id, R w (w.snapped id))
    (hsetup : ¬ r.LeavesSetup → ∀ g : Form → Form, (∀ f, (g f).errors = f.errors) →
      Keeps R (FormM.modifyForm g))
    (herrors : ¬ r.LeavesErrors → ∀ name isError detail,
      Keeps R (Form.setError call name isError detail)) :
    Keeps R (step call r) :=
  step_keeps_of hR.attending hcall hsnapshot (fun sets g errors _ => hsetup sets g errors) herrors

/-! ## Scripts -/

/-- Every request of a script satisfies `P`, whatever the replies. -/
def Script.Makes (P : Request → Prop) : Script → Prop
  | .answer _ | .fail _ => True
  | .request r next => P r ∧ ∀ reply, (next reply).Makes P

/-- Every request of the client's functions satisfies `P`. -/
def Behaviour.Makes (behaviour : Behaviour) (P : Request → Prop) : Prop :=
  ∀ script n args, (behaviour script n args).Makes P

variable {behaviour : Behaviour} {P : Request → Prop}

theorem runScript_keeps (hR : Chained R) {perform : Request → FormM Reply}
    (h : ∀ r, P r → Keeps R (perform r)) {script : Script} (hscript : script.Makes P) :
    Keeps R (runScript perform script) := by
  induction script with
  | answer v => exact hR.pure v
  | fail f => exact hR.throw f
  | request r next ih => exact hR.bind (h r hscript.1) fun reply => ih reply (hscript.2 reply)

theorem callWith_keeps (hR : Aside R) (hmakes : behaviour.Makes P)
    {perform : Request → FormM Reply} (h : ∀ r, P r → Keeps R (perform r)) (f : Callback)
    {args : Arguments} (hargs : ∀ w, R w (w.noted (.call f.role args))) :
    Keeps R (callWith behaviour perform f args) :=
  hR.bind (hR.modify (fun _ => rfl) (fun _ => rfl) (fun _ => rfl) fun _ => rfl) fun _ =>
    hR.bind hargs fun _ => hR.bind hR.get fun _ =>
      runScript_keeps hR.toChained h (hmakes _ _ args)

/-- Calls of each depth keep a relation because the requests of the depth below do. -/
theorem perform_keeps (hR : Aside R) (hnoted : ∀ w e, R w (w.noted e)) (hmakes : behaviour.Makes P)
    (hstep : ∀ call : Caller, (∀ f args, Keeps R (call f args)) →
      ∀ r, P r → Keeps R (step call r))
    (depth : Nat) (r : Request) (hr : P r) : Keeps R (perform behaviour depth r) := by
  induction depth generalizing r with
  | zero => exact hR.throw _
  | succ depth ih =>
      exact hstep _ (fun f _ => callWith_keeps hR hmakes ih f fun w => hnoted w _) r hr

/-! ## Opening a form -/

theorem takeGiven_keeps (hR : Aside R) (given : Given) : Keeps R (takeGiven given) := by
  induction given with
  | nil => exact hR.pure _
  | cons e rest ih => exact hR.bind (takeHook_keeps hR _ e.2) fun _ => hR.returning ih _

theorem buildFields_keeps (hR : Enrolling R) (values : Value) (validators : Table HookSource)
    (ds : List FieldDefinition) : Keeps R (buildFields values validators ds) := by
  induction ds with
  | nil => exact hR.pure _
  | cons d rest ih =>
      refine .ite (hR.bind (hR.throw _) fun _ => ?_) ?_
      all_goals
        refine hR.bind (takeHook_keeps hR.toAside _ _) fun _ => hR.bind (hR.newField _) fun id =>
          hR.bind (Form.registerField_keeps hR id) fun _ => hR.bind (hR.lift _) fun _ =>
            .ite ?_ ih
        exact hR.bind (hR.lift _) fun _ => hR.bind (hR.field id) fun _ =>
          hR.bind (hR.lift _) fun _ => hR.bind (hR.setField id _) fun _ => ih

/-- Opening a form keeps a relation that allows starting with a form without fields, and building
its fields. -/
theorem open_keeps (hR : Tolerant R) (hstart : ∀ o, Keeps R (start (Form.ofOptions o)))
    (opening : Opening) : Keeps R (Session.open opening) := by
  have started {o : FormOptions} {f : Form} (opened : Form.opened o = .ok f) :
      Keeps R (start f) := (Form.accept_of_opened opened).1 ▸ hstart o
  cases opening with
  | options given =>
      exact hR.bind (takeGiven_keeps hR.toAside given) fun _ => hR.lifting fun _ => started
  | twice given extra =>
      refine hR.bind (takeGiven_keeps hR.toAside given) fun _ => hR.lifting fun f opened => ?_
      unfold Form.openedWith at opened
      split at opened
      · exact started opened
      · split at opened <;> cases opened
  | mapping data given extra =>
      refine hR.bind (takeGiven_keeps hR.toAside given) fun _ => hR.bind (hR.lift _) fun _ =>
        hR.lifting fun f opened => ?_
      obtain ⟨o, -, opened⟩ := bind_eq_ok_iff.mp opened
      exact started opened
  | definition d given extra values validators =>
      refine hR.bind (takeGiven_keeps hR.toAside given) fun _ => hR.bind (hR.lift _) fun _ =>
        hR.lifting fun f opened => ?_
      obtain ⟨o, -, opened⟩ := bind_eq_ok_iff.mp opened
      exact hR.bind (started opened) fun _ => buildFields_keeps hR.enrolling _ validators d.fields

end Session

end FormRules
