/-
# Overlooking — a field that is registered nowhere is read by nobody

A field outlives its registrations: a client may keep it, change it, and register it again.  An
operation *overlooks* a field if it cannot tell any of this.  In a world in which the field is
registered under no name, it gives the same outcome for any other field in that place, and leaves
the same world but for the field itself, which is still registered nowhere.

    overlooks a field                    needs
    collecting the values                nothing
    evaluating rules, notifying          functions of the client that overlook the field
    a pass, with any snapshot            the same, and a snapshot without the field
    submitting                           the same

Nothing that a pass does can depend on the name, the kind, the rules, the validator or the value of
such a field.
-/
import FormRules.Form.Submission
import FormRules.Proofs.Form.Registrations
import FormRules.Proofs.Outcome

namespace FormRules

open FormM

namespace FieldTable

/-- A field is registered under no name. -/
def Without (t : FieldTable) (id : FieldId) : Prop := ∀ b ∈ t.buckets, ∀ e ∈ b.2, e.field ≠ id

theorem Without.field_ne {t : FieldTable} {id : FieldId} (h : t.Without id) {name : Value}
    {e : Entry} (found : t.entry name = .ok e) : e.field ≠ id := by
  obtain ⟨bucket, looked, one⟩ := bind_eq_ok_iff.mp found
  unfold bucket? at looked
  split at looked
  · obtain rfl : t.buckets.find? name = bucket := Except.ok.inj looked
    cases here : t.buckets.find? name with
    | none =>
        rw [here] at one
        cases one
    | some entries =>
        rw [here] at one
        obtain ⟨key, hkey, -⟩ := Table.mem_of_find? here
        refine h _ hkey e ?_
        match entries with
        | [] => cases one
        | [e'] =>
            obtain rfl : e' = e := Except.ok.inj one
            exact List.mem_singleton_self e'
        | _ :: _ :: _ => cases one
  · cases looked

end FieldTable

theorem World.field_setField_of_ne (w : World) {id other : FieldId} (h : other ≠ id) (f : Field) :
    (w.setField id f).field other = w.field other := by
  simp [field, setField, h.symm]

variable {α β : Type} {id : FieldId}

/-- What the operation does in a world does not depend on what a field is like; it leaves the same
world, but for that field. -/
def World.Hides (w : World) (id : FieldId) (m : FormM α) : Prop :=
  ∀ f, ∃ f', m.runIn (w.setField id f) = ((m.runIn w).1, (m.runIn w).2.setField id f')

/-- The operation cannot tell what a field is like that is registered nowhere. -/
def FormM.Overlooks (id : FieldId) (m : FormM α) : Prop :=
  ∀ w, w.form.fields.Without id → (m.runIn w).2.form.fields.Without id ∧ w.Hides id m

namespace FormM.Overlooks

/-- An operation that does the same to a world whatever the field is like. -/
theorem of_runIn {m : FormM α} {o : World → Outcome α} {g : World → World}
    (ran : ∀ w, m.runIn w = (o w, g w)) (same : ∀ w f, o (w.setField id f) = o w)
    (apart : ∀ w f, g (w.setField id f) = (g w).setField id f)
    (fields : ∀ w, (g w).form.fields = w.form.fields) : Overlooks id m := by
  intro w without
  constructor
  · rw [ran]
    exact (fields w).symm ▸ without
  · intro f
    refine ⟨f, ?_⟩
    rw [ran, ran, same, apart]

theorem pure (a : α) : Overlooks id (Pure.pure a : FormM α) :=
  of_runIn (fun _ => rfl) (fun _ _ => rfl) (fun _ _ => rfl) fun _ => rfl

theorem throw (f : Failure) : Overlooks id (MonadExcept.throw f : FormM α) :=
  of_runIn (fun _ => rfl) (fun _ _ => rfl) (fun _ _ => rfl) fun _ => rfl

theorem lift (o : Outcome α) : Overlooks id (FormM.lift o) :=
  of_runIn (fun _ => rfl) (fun _ _ => rfl) (fun _ _ => rfl) fun _ => rfl

theorem emit (e : Event) : Overlooks id (FormM.emit e) :=
  of_runIn (fun _ => rfl) (fun _ _ => rfl) (fun _ _ => rfl) fun _ => rfl

/-- The form changes in something else than its fields. -/
theorem modifyForm {g : Form → Form} (fields : ∀ f, (g f).fields = f.fields) :
    Overlooks id (FormM.modifyForm g) :=
  of_runIn (fun w => runIn_modifyForm g w) (fun _ _ => rfl) (fun _ _ => rfl) fun w => fields w.form

/-- Another field is looked at. -/
theorem field {other : FieldId} (h : other ≠ id) : Overlooks id (FormM.field other) :=
  of_runIn (fun w => runIn_field other w)
    (fun w f => congrArg Except.ok (w.field_setField_of_ne h f)) (fun _ _ => rfl) fun _ => rfl

theorem bind {m : FormM α} {k : α → FormM β} (hm : Overlooks id m)
    (hk : ∀ a, Overlooks id (k a)) : Overlooks id (m >>= k) := by
  intro w without
  obtain ⟨without₁, first⟩ := hm w without
  rcases ran : m.runIn w with ⟨e | a, w₁⟩
  · rw [World.Hides, ran] at first
    rw [ran] at without₁
    have failed : (m >>= k).runIn w = (.error e, w₁) := runIn_bind_error ran
    rw [World.Hides, failed]
    refine ⟨without₁, fun f => ?_⟩
    obtain ⟨f', ran'⟩ := first f
    exact ⟨f', runIn_bind_error ran'⟩
  · rw [World.Hides, ran] at first
    rw [ran] at without₁
    obtain ⟨without₂, later⟩ := hk a w₁ without₁
    have goes : (m >>= k).runIn w = (k a).runIn w₁ := runIn_bind_ok ran
    rw [World.Hides, goes]
    refine ⟨without₂, fun f => ?_⟩
    obtain ⟨f₁, ran'⟩ := first f
    obtain ⟨f₂, last⟩ := later f₁
    exact ⟨f₂, (runIn_bind_ok ran').trans last⟩

/-- The form is looked at, and the field is registered nowhere in it. -/
theorem reading {k : Form → FormM β} (hk : ∀ f : Form, f.fields.Without id → Overlooks id (k f)) :
    Overlooks id (FormM.form >>= k) := by
  intro w without
  exact hk w.form without w without

theorem ite {c : Prop} [Decidable c] {m m' : FormM α} (h : Overlooks id m)
    (h' : Overlooks id m') : Overlooks id (if c then m else m') := by
  split
  · exact h
  · exact h'

end FormM.Overlooks

namespace Form

open FormM.Overlooks

/-! ## Without functions of the client -/

/-- The values of a form are those of registered fields. -/
theorem valuesOf_overlooks (names : List Value) : Overlooks id (valuesOf names) := by
  induction names with
  | nil => exact .pure _
  | cons name rest ih =>
      refine .reading fun form without => ?_
      have rest (value : Value) : Overlooks id (do return (name, value) :: (← valuesOf rest)) :=
        .bind ih fun _ => .pure _
      cases found : form.fields.entry name with
      | ok e => exact .bind (.field (without.field_ne found)) fun _ => .bind (.pure _) rest
      | error f =>
          cases f with
          | ambiguous n count => exact .bind (.emit _) fun _ => .bind (.pure _) rest
          | _ => exact .bind (.throw _) rest

theorem values_overlooks : Overlooks id values :=
  .reading fun _ _ => valuesOf_overlooks _

theorem emitCalls_overlooks (calls : List RuleCall) : Overlooks id (emitCalls calls) := by
  induction calls with
  | nil => exact .pure _
  | cons c rest ih => exact .bind (.emit _) fun _ => ih

/-- The rules of another field are evaluated. -/
theorem runChain_overlooks {other : FieldId} (h : other ≠ id) (chain : Chain) (value : Value) :
    Overlooks id (runChain other chain value) := by
  intro w without
  rcases evaluated : chain.run w.registries (w.field other).errorHelp w.form.defaultHelp value with
    ⟨calls, outcome⟩
  have asked (f : Field) :
      chain.run (w.setField id f).registries ((w.setField id f).field other).errorHelp
          (w.setField id f).form.defaultHelp value = (calls, outcome) := by
    rw [w.field_setField_of_ne h]
    exact evaluated
  have here : (runChain other chain value).runIn w =
      (emitCalls calls >>= fun _ => FormM.lift outcome).runIn w := by
    simp [runChain, runIn_bind, evaluated]
  have there (f : Field) : (runChain other chain value).runIn (w.setField id f) =
      (emitCalls calls >>= fun _ => FormM.lift outcome).runIn (w.setField id f) := by
    simp [runChain, runIn_bind, asked]
  have rest : Overlooks id (emitCalls calls >>= fun _ => FormM.lift outcome) :=
    .bind (emitCalls_overlooks calls) fun _ => .lift outcome
  obtain ⟨without', later⟩ := rest w without
  rw [World.Hides, here]
  refine ⟨without', fun f => ?_⟩
  rw [there]
  exact later f

/-! ## With functions of the client that overlook the field -/

variable {call : Caller} (hcall : ∀ f args, Overlooks id (call f args))

include hcall

theorem callHook_overlooks (hook : Hook) (args : Arguments) :
    Overlooks id (callHook call hook args) := by
  cases hook with
  | function f => exact hcall f args
  | value v => exact .throw _
  | ignore => exact .pure _

theorem notify_overlooks (previous : Table Value) (subscriptions : List Subscription) :
    Overlooks id (notify call previous subscriptions) := by
  induction subscriptions with
  | nil => exact .pure _
  | cons s rest ih => exact .reading fun _ _ => .bind (hcall _ _) fun _ => ih

theorem setError_overlooks (name : Value) (isError : Bool) (detail : Value) :
    Overlooks id (setError call name isError detail) := by
  unfold setError
  refine .bind (.lift _) fun stored => ?_
  split
  · exact .bind (.throw _) fun _ => .reading fun form _ => .bind (.modifyForm fun _ => rfl)
      fun _ => .bind (notify_overlooks hcall _ _) fun _ => .pure _
  · exact .reading fun form _ => .bind (.modifyForm fun _ => rfl) fun _ =>
      .bind (notify_overlooks hcall _ _) fun _ => .pure _

theorem runCheck_overlooks {other : FieldId} (h : other ≠ id) (name value context : Value)
    (check : Check) : Overlooks id (runCheck call other name value context check) := by
  cases check with
  | formOverride hook => exact callHook_overlooks hcall hook _
  | fieldOverride hook => exact callHook_overlooks hcall hook _
  | rules chain => exact runChain_overlooks h chain value
  | always => exact .pure _

theorem validateEntry_overlooks {e : Entry} (h : e.field ≠ id) (name context : Value) :
    Overlooks id (validateEntry call name context e) := by
  refine .bind (.field h) fun field => .reading fun form _ => ?_
  cases firstCheck? field e.chain form.tiers with
  | none => exact .throw _
  | some check =>
      refine .bind (.lift _) fun value => ?_
      refine .bind (runCheck_overlooks hcall h name value context check) fun result => ?_
      exact .bind (setError_overlooks hcall name _ _) fun _ => .pure _

/-- The registrations are those of a snapshot that the field is not in. -/
theorem validateIn_overlooks {fields : FieldTable} (h : fields.Without id) (name context : Value) :
    Overlooks id (validateIn call fields name context) := by
  unfold validateIn
  split
  · rename_i e found
    exact validateEntry_overlooks hcall (h.field_ne found) name context
  · exact .bind (.emit _) fun _ => .pure _
  · exact .throw _

theorem failing_overlooks {fields : FieldTable} (h : fields.Without id) (context : Value)
    (names : List Value) : Overlooks id (failing call fields context names) := by
  induction names with
  | nil => exact .pure _
  | cons name rest ih =>
      exact .bind (validateIn_overlooks hcall h name context) fun _ => .bind ih fun _ => .pure _

theorem clearUnmentioned_overlooks (failures : Table Value) (names : List Value) :
    Overlooks id (clearUnmentioned call failures names) := by
  induction names with
  | nil => exact .pure _
  | cons name rest ih =>
      unfold clearUnmentioned
      exact .ite (.bind (setError_overlooks hcall name _ _) fun _ => ih) ih

theorem recordFailures_overlooks (names : List Value) (failures : Table Value) :
    Overlooks id (recordFailures call names failures) := by
  induction failures with
  | nil => exact .pure _
  | cons e rest ih =>
      obtain ⟨name, detail⟩ := e
      unfold recordFailures
      exact .ite (.bind (setError_overlooks hcall name _ _) fun _ => ih)
        (.bind (.emit _) fun _ => ih)

theorem applyResult_overlooks (names : List Value) (result : Value) :
    Overlooks id (applyResult call names result) := by
  unfold applyResult
  split
  · exact .bind (clearUnmentioned_overlooks hcall _ names) fun _ =>
      .bind (recordFailures_overlooks hcall names _) fun _ => .pure _
  · exact .bind (.emit _) fun _ => .pure _

theorem validateOne_overlooks (name context : Value) :
    Overlooks id (validateOne call name context) :=
  .reading fun _ without => validateIn_overlooks hcall without name context

/-- **A pass overlooks a field that is registered nowhere.** -/
theorem validateAll_overlooks (context : Value) : Overlooks id (validateAll call context) := by
  refine .reading fun form without => .ite ?_ ?_
  · exact .bind (callHook_overlooks hcall _ _) fun result => applyResult_overlooks hcall _ result
  · exact .bind (failing_overlooks hcall without context _) fun _ => .pure _

theorem validateField_overlooks (name : Value) : Overlooks id (validateField call name) :=
  .bind values_overlooks fun _ => validateOne_overlooks hcall name _

theorem validate_overlooks : Overlooks id (validate call) :=
  .bind values_overlooks fun _ => validateAll_overlooks hcall _

theorem dispatch_overlooks (present : Table Value) (verdict : Verdict) :
    Overlooks id (dispatch call present verdict) := by
  unfold dispatch
  refine .ite ?_ (.bind (.lift _) fun names => ?_)
  · exact .bind (.emit _) fun _ => .reading fun _ _ =>
      .bind (callHook_overlooks hcall _ _) fun _ => .pure _
  · exact .bind (.emit _) fun _ => .reading fun _ _ =>
      .bind (callHook_overlooks hcall _ _) fun _ => .pure _

theorem submit_overlooks : Overlooks id (submit call) :=
  .bind values_overlooks fun present => .bind (validateAll_overlooks hcall _) fun verdict =>
    .bind (dispatch_overlooks hcall present verdict) fun _ => .pure _

end Form

end FormRules
