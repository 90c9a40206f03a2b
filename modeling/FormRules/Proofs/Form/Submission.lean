/-
# Submissions — the values that are validated are the values that are handed over

A submission reads the values of the registered fields, validates the form with them, and hands
them over: to the accept function if the form is valid, otherwise to the reject function, together
with the names that fail.  Between the pass and the call a report is made, and for a rejection the
names that fail are joined to its text, which needs them to be texts.

    pass                                        the submission
    valid                                       calls the accept function
    invalid, all names that fail are texts      calls the reject function, if it is one
    invalid, some name that fails is no text    fails before it calls either
    a predicate fails                           fails in the same way
    the override gives a registered name a      fails in the same way
      detail that cannot be written

That nothing but the one call depends on the functions that take over outcomes is said by
`HandsOver`: for all ways in which these may behave, the submission is a run of the same pass
followed by the call.  `submit_dispatches` is all lines but the third, for names that are texts;
`submit_calls_one_or_none` says exactly when there is a call.  A form may be opened with a reject
option that is no function, and fails when it would call it.
-/
import FormRules.Form.Options
import FormRules.Proofs.Form.Pass

namespace FormRules

open FormM Treatment

variable {α : Type}

/-! ## How a pass ends -/

/-- A pass from `w` to `w'` that compiled rules have broken off. -/
def BrokenOff (call : Caller) (context : Value) (w : World) (f : Failure) (w' : World) : Prop :=
  ∃ ts, Linked w ts w' ∧ (∀ t ∈ ts, t.Holds call context) ∧ BrokenPass w.form.fields.buckets ts f

/-- How a pass from `w` to `w'` comes to fail: compiled rules break it off, or the override of whole
passes gives a registered name a detail that cannot be written. -/
inductive Stopped (call : Caller) (context : Value) (w w' : World) : Failure → Prop
  | broken {f : Failure} (plain : w.form.wholeOverride.isCallable = false)
      (rules : BrokenOff call context w f w') : Stopped call context w w' f
  | unwritten {result : Value} {failures : Table Value} {w₁ : World}
      (answered : (callHook call w.form.wholeOverride (.form context)).runIn w = (.ok result, w₁))
      (mentioned : Form.failuresOf? result = some failures)
      (mute : Form.GivesMute w.form.fields.keys failures) :
      Stopped call context w w' .longInteger

/-- The failures that whole-form overrides report are reported for texts. -/
def Caller.NamesByText (call : Caller) : Prop :=
  ∀ f context w result w' failures, (call f (.form context)).runIn w = (.ok result, w') →
    Form.failuresOf? result = some failures → ∀ name ∈ failures.keys, name.isStr = true

namespace Form

variable {call : Caller} {context result : Value} {names : List Value} {verdict : Verdict}
  {w w' : World}

/-- A pass of an override ends with the names that the override mentions, unless it gives a
registered one a detail that cannot be written. -/
theorem runIn_validateAll_override (hcall : call.Benign) (context : Value)
    (hover : w.form.wholeOverride.isCallable = true) :
    ∃ result w₁ w₂,
      (callHook call w.form.wholeOverride (.form context)).runIn w = (.ok result, w₁) ∧
      (validateAll call context).runIn w =
        (if GivesMute w.form.fields.keys ((failuresOf? result).getD []) then .error .longInteger
          else .ok ⟨result.isTrue, ((failuresOf? result).getD []).keys⟩, w₂) := by
  obtain ⟨result, w₁, answered⟩ :=
    callHook_completes hcall.returns (.form context) id hover w
  have keys (name : Value) (h : name ∈ w.form.fields.keys) : name.isKey = true :=
    FieldTable.isKey_of_mem_keys h
  obtain ⟨w₂, applied⟩ := runIn_applyResult hcall.returns keys result w₁
  refine ⟨result, w₁, w₂, answered, ?_⟩
  rw [validateAll, runIn_bind_ok (runIn_form w), if_pos hover, runIn_bind_ok answered, applied]

/-- A pass ends with a verdict, unless it is stopped. -/
theorem validateAll_ends (hcall : call.Benign) (hcontext : context.IsMapping)
    (htiers : w.form.Decisive) {outcome : Outcome Verdict}
    (ran : (validateAll call context).runIn w = (outcome, w')) :
    (∃ verdict, outcome = .ok verdict) ∨
      ∃ f, outcome = .error f ∧ Stopped call context w w' f := by
  cases hover : w.form.wholeOverride.isCallable with
  | true =>
      obtain ⟨result, w₁, w₂, answered, passed⟩ := runIn_validateAll_override hcall context hover
      obtain rfl := congrArg Prod.fst (ran.symm.trans passed)
      split
      · rename_i mute
        cases mentioned : failuresOf? result with
        | none => exact absurd (mentioned ▸ mute) not_givesMute_nil
        | some failures =>
            rw [mentioned] at mute
            exact .inr ⟨_, rfl, .unwritten answered mentioned mute⟩
      · exact .inl ⟨_, rfl⟩
  | false =>
      obtain ⟨ts, found, w₁, treated, linked, held, accounts⟩ :=
        validateAll_treats hcall hcontext htiers hover
      obtain ⟨rfl, rfl⟩ := Prod.mk.inj (ran.symm.trans treated)
      cases found with
      | ok failed => exact .inl ⟨_, rfl⟩
      | error f => exact .inr ⟨f, rfl, .broken hover ⟨ts, linked, held, accounts⟩⟩

/-- Whatever happens while an answer is taken over, it is the answer that the verdict says. -/
theorem eq_of_runIn_applyResult
    (ran : (applyResult call names result).runIn w = (.ok verdict, w')) :
    verdict = ⟨result.isTrue, ((failuresOf? result).getD []).keys⟩ := by
  unfold applyResult at ran
  split at ran
  · rename_i failures mentioned
    obtain ⟨_, _, -, ran⟩ := exists_of_runIn_bind ran
    obtain ⟨_, _, -, ran⟩ := exists_of_runIn_bind ran
    rw [mentioned]
    exact (Except.ok.inj (congrArg Prod.fst ran)).symm
  · rename_i other
    obtain ⟨_, _, -, ran⟩ := exists_of_runIn_bind ran
    rw [other, isTrue_eq_false_of_failuresOf? other]
    exact (Except.ok.inj (congrArg Prod.fst ran)).symm

theorem exists_answer_of_validateAll (hover : w.form.wholeOverride.isCallable = true)
    (ran : (validateAll call context).runIn w = (.ok verdict, w')) :
    ∃ result w₁,
      (callHook call w.form.wholeOverride (.form context)).runIn w = (.ok result, w₁) ∧
      verdict = ⟨result.isTrue, ((failuresOf? result).getD []).keys⟩ := by
  rw [validateAll, runIn_bind_ok (runIn_form w), if_pos hover] at ran
  obtain ⟨result, w₁, answered, applied⟩ := exists_of_runIn_bind ran
  exact ⟨result, w₁, answered, eq_of_runIn_applyResult applied⟩

/-- The names that fail are texts if the registered names and those of overrides are. -/
theorem isStr_of_mem_failed (hcall : call.Benign) (htext : call.NamesByText)
    (hcontext : context.IsMapping) (htiers : w.form.Decisive)
    (hnames : ∀ name ∈ w.form.fields.keys, name.isStr = true)
    (ran : (validateAll call context).runIn w = (.ok verdict, w')) :
    ∀ name ∈ verdict.failed, name.isStr = true := by
  cases hover : w.form.wholeOverride.isCallable with
  | true =>
      obtain ⟨result, w₁, answered, rfl⟩ := exists_answer_of_validateAll hover ran
      intro name hname
      cases mentioned : failuresOf? result with
      | none => simp [mentioned] at hname
      | some failures =>
          rw [mentioned] at hname
          cases hook : w.form.wholeOverride with
          | value v => simp [hook, Hook.isCallable] at hover
          | function f =>
              rw [hook] at answered
              exact htext f context w result w₁ failures answered mentioned name hname
          | ignore =>
              rw [hook] at answered
              cases answered
              cases mentioned
  | false =>
      obtain ⟨ts, outcome, _, treated, -, held, accounts⟩ :=
        validateAll_treats hcall hcontext htiers hover
      cases outcome with
      | error f => cases congrArg Prod.fst (ran.symm.trans treated)
      | ok failed =>
          cases congrArg Prod.fst (ran.symm.trans treated)
          intro name hname
          exact hnames name ((wholePass_of_accounts held accounts).sublist.subset hname)

/-! ## Handing over -/

theorem joinNames_of_isStr {names : List Value} (h : ∀ name ∈ names, name.isStr = true) :
    ∃ text, joinNames names = .ok text := by
  have texts : ∃ ts, names.mapM Value.str? = some ts := by
    induction names with
    | nil => exact ⟨[], rfl⟩
    | cons name rest ih =>
        obtain ⟨ts, hts⟩ := ih fun n hn => h n (List.mem_cons_of_mem _ hn)
        cases name with
        | str s => exact ⟨s :: ts, by simp [Value.str?, hts]⟩
        | _ => exact absurd (h _ List.mem_cons_self) Bool.false_ne_true
  obtain ⟨ts, hts⟩ := texts
  exact ⟨_, by rw [joinNames, hts]⟩

theorem joinNames_of_not_isStr {names : List Value} (h : ¬ ∀ name ∈ names, name.isStr = true) :
    joinNames names = .error .typeMismatch := by
  have texts : names.mapM Value.str? = none := by
    induction names with
    | nil => simp at h
    | cons name rest ih =>
        cases name with
        | str s =>
            have later : rest.mapM Value.str? = none :=
              ih fun all => h (by simpa [Value.isStr] using all)
            simp [Value.str?, later]
        | _ => simp [Value.str?]
  rw [joinNames, texts]

end Form

namespace Verdict

/-- The function that takes over a submission with a verdict. -/
def receiver (v : Verdict) (o : FormOptions) : Hook := if v.isValid then o.accept else o.reject

/-- What it takes over. -/
def handover (v : Verdict) (present : Table Value) : Arguments :=
  if v.isValid then .accepted (.map present) else .rejected v.failed (.map present)

/-- The report on the verdict can be written: if it is a rejection, all names in it are texts. -/
def IsReportable (v : Verdict) : Prop := v.isValid = true ∨ ∀ name ∈ v.failed, name.isStr = true

/-- The verdict is valid, or rejecting names texts only and calls what can be called. -/
def HasReceiver (v : Verdict) (o : FormOptions) : Prop :=
  v.isValid = true ∨ (∀ name ∈ v.failed, name.isStr = true) ∧ o.reject.isCallable = true

variable {v : Verdict} {o : FormOptions}

theorem HasReceiver.isReportable (h : v.HasReceiver o) : v.IsReportable := h.imp_right And.left

/-- With an accept function, what takes over can be called. -/
theorem HasReceiver.isCallable (h : v.HasReceiver o) (haccept : o.accept.isCallable = true) :
    (v.receiver o).isCallable = true := by
  unfold receiver
  split
  · exact haccept
  · rename_i invalid
    exact (h.resolve_left invalid).2

theorem not_isCallable_of_not_hasReceiver (h : ¬ v.HasReceiver o) (reportable : v.IsReportable) :
    ¬ (v.receiver o).isCallable = true := by
  intro callable
  rcases reportable with valid | texts
  · exact h (.inl valid)
  · cases valid : v.isValid with
    | true => exact h (.inl valid)
    | false => exact h (.inr ⟨texts, by simpa [receiver, valid] using callable⟩)

end Verdict

/-- However the functions that take over outcomes behave, `m` does what it would do without them up
to `w'`, then calls `hook` once, and ends with that call; `result` is given if the call returns. -/
def HandsOver (m : Caller → FormM α) (call : Caller) (w : World) (hook : Hook) (args : Arguments)
    (w' : World) (result : α) : Prop :=
  ∀ call' : Caller, call.AgreesOn (fun args => ¬ args.IsOutcome) call' →
    (m call').runIn w = ((fun _ => result) <$> callHook call' hook args).runIn w'

/-- However the functions that take over outcomes behave, `m` calls none of them, and fails. -/
def HandsOverNothing (m : Caller → FormM α) (call : Caller) (w : World) (f : Failure)
    (w' : World) : Prop :=
  ∀ call' : Caller, call.AgreesOn (fun args => ¬ args.IsOutcome) call' →
    (m call').runIn w = (.error f, w')

/-- What cannot be called takes over nothing. -/
theorem HandsOver.nothing {m : Caller → FormM α} {call : Caller} {w w' : World} {hook : Hook}
    {args : Arguments} {result : α} (h : HandsOver m call w hook args w' result)
    (hhook : ¬ hook.isCallable = true) : HandsOverNothing m call w .typeMismatch w' := by
  intro call' agree
  rw [h call' agree]
  cases hook with
  | value v => rfl
  | function f | ignore => exact absurd rfl hhook

namespace Form

variable {call : Caller} {present : Table Value} {verdict : Verdict} {w : World}

/-- With a report, an outcome is handed over. -/
theorem runIn_dispatch (h : verdict.IsReportable) :
    ∃ w', w.Reports w' ∧ ∀ call, (dispatch call present verdict).runIn w =
      ((fun _ => ()) <$> callHook call (verdict.receiver w.form.options)
        (verdict.handover present)).runIn w' := by
  cases valid : verdict.isValid with
  | true =>
      refine ⟨_, .noted w (.log .info
        ("Form submitted with " ++ toString present.length ++ " valid field(s)")), fun call => ?_⟩
      simp [dispatch, runIn_bind, valid, Verdict.receiver, Verdict.handover]
  | false =>
      obtain ⟨text, joined⟩ := joinNames_of_isStr (h.resolve_left (by simp [valid]))
      refine ⟨_, .noted w (.log .info ("Form submission rejected: " ++ text)), fun call => ?_⟩
      simp [dispatch, runIn_bind, valid, joined, Verdict.receiver, Verdict.handover]

/-- Names that are no texts cannot be reported, so nothing is handed over. -/
theorem runIn_dispatch_of_not_isReportable (h : ¬ verdict.IsReportable) :
    (dispatch call present verdict).runIn w = (.error .typeMismatch, w) := by
  obtain ⟨invalid, names⟩ := not_or.mp h
  simp [dispatch, runIn_bind, invalid, joinNames_of_not_isStr names]

/-! ## Whole submissions -/

theorem agreesOn_within {call' : Caller} {context : Value}
    (h : call.AgreesOn (fun args => ¬ args.IsOutcome) call') :
    call.AgreesOn (·.Within context) call' :=
  fun f args within => h f args within.not_isOutcome

/-- A submission is a pass with the present values, and what follows from its verdict.  The pass is
the same whatever the functions do that take over outcomes. -/
theorem runIn_submit {call' : Caller} (agree : call.AgreesOn (fun args => ¬ args.IsOutcome) call')
    {w₀ : World} (collected : values.runIn w = (.ok present, w₀)) :
    (submit call').runIn w = (do
      let verdict ← validateAll call (.map present)
      dispatch call' present verdict
      return verdict.isValid).runIn w₀ := by
  -- A pass calls nothing that takes over an outcome, and the two callers differ on nothing else.
  have same : validateAll call (.map present) = validateAll call' (.map present) :=
    validateAll_callsOnly (.map present) call call' (agreesOn_within agree)
  rw [same]
  exact runIn_bind_ok collected

theorem runIn_submit_ok {call' : Caller}
    (agree : call.AgreesOn (fun args => ¬ args.IsOutcome) call') {w₀ w₁ : World}
    (collected : values.runIn w = (.ok present, w₀))
    (passed : (validateAll call (.map present)).runIn w₀ = (.ok verdict, w₁)) :
    (submit call').runIn w =
      ((fun _ => verdict.isValid) <$> dispatch call' present verdict).runIn w₁ := by
  rw [runIn_submit agree collected, runIn_bind_ok passed, map_eq_pure_bind]

/-- After a pass whose verdict can be reported, a submission hands it over. -/
theorem submit_handsOver {w₀ w₁ : World} (collected : values.runIn w = (.ok present, w₀))
    (passed : (validateAll call (.map present)).runIn w₀ = (.ok verdict, w₁))
    (h : verdict.IsReportable) :
    ∃ w₂, w₁.Reports w₂ ∧ HandsOver submit call w (verdict.receiver w₁.form.options)
      (verdict.handover present) w₂ verdict.isValid := by
  obtain ⟨w₂, reports, dispatched⟩ := runIn_dispatch h
  refine ⟨w₂, reports, fun call' agree => ?_⟩
  rw [runIn_submit_ok agree collected passed, runIn_map, dispatched, runIn_map, runIn_map]
  rcases (callHook call' _ _).runIn w₂ with ⟨_ | _, _⟩ <;> rfl

/-- After a pass whose verdict cannot be reported, a submission hands over nothing. -/
theorem submit_handsOverNothing {w₀ w₁ : World} (collected : values.runIn w = (.ok present, w₀))
    (passed : (validateAll call (.map present)).runIn w₀ = (.ok verdict, w₁))
    (h : ¬ verdict.IsReportable) :
    HandsOverNothing submit call w .typeMismatch w₁ := by
  intro call' agree
  rw [runIn_submit_ok agree collected passed, runIn_map, runIn_dispatch_of_not_isReportable h]
  rfl

/-- After a pass that is broken off, a submission hands over nothing. -/
theorem submit_handsOverNothing_of_error {w₀ w₁ : World} {f : Failure}
    (collected : values.runIn w = (.ok present, w₀))
    (passed : (validateAll call (.map present)).runIn w₀ = (.error f, w₁)) :
    HandsOverNothing submit call w f w₁ := by
  intro call' agree
  rw [runIn_submit agree collected]
  exact runIn_bind_error passed

/-- The pass of a submission has the readings of its start, and leaves the options alone. -/
theorem submit_passes (hcall : call.Benign) (htiers : w.form.Decisive) :
    ∃ w₀ outcome w₁, w.Reports w₀ ∧ values.runIn w = (.ok w.readings, w₀) ∧
      (validateAll call (.map w.readings)).runIn w₀ = (outcome, w₁) ∧
      w₁.form.options = w.form.options ∧
      ((∃ verdict, outcome = .ok verdict) ∨
        ∃ f, outcome = .error f ∧ Stopped call (.map w.readings) w₀ w₁ f) := by
  obtain ⟨w₀, reports, collected⟩ := runIn_values w
  have same : w₀.form = w.form := reports.form
  rcases passed : (validateAll call (.map w.readings)).runIn w₀ with ⟨outcome, w₁⟩
  -- The pass may leave other fields behind, but not other functions to hand the outcome to.
  have setup : w₁.form.setup = w₀.form.setup := by
    have kept := validateAll_keeps World.sameSetup_frame hcall.keepsSetup (.map w.readings)
      (w := w₀) fun _ _ => trivial
    rwa [passed] at kept
  have ends := validateAll_ends hcall ⟨w.readings, rfl⟩ (same ▸ htiers) passed
  exact ⟨w₀, outcome, w₁, reports, collected, passed, same ▸ options_of_setup setup, ends⟩

/-- **What is validated is what is handed over.**  A submission reads one value for each registered
name, in order.  Functions of the client may change fields, values and registrations during the
pass: all of it sees these values, and so does the one function that takes over the outcome; it is
told the names that fail, and the submission gives the verdict.  If the pass is stopped, neither of
the two functions is called. -/
theorem submit_dispatches (hcall : call.Benign) (htext : call.NamesByText)
    (htiers : w.form.Decisive) (hnames : ∀ name ∈ w.form.fields.keys, name.isStr = true) :
    w.readings.keys = w.form.fields.keys ∧
    (∀ b ∈ w.form.fields.buckets, w.readings.find? b.1 = some (w.reading b.2)) ∧
    CallsOnly (·.Within (.map w.readings)) (validateAll · (.map w.readings)) ∧
    ∃ w₀ outcome w₁, w.Reports w₀ ∧
      (validateAll call (.map w.readings)).runIn w₀ = (outcome, w₁) ∧
      match outcome with
      | .ok verdict => ∃ w₂, w₁.Reports w₂ ∧
          HandsOver submit call w (verdict.receiver w.form.options) (verdict.handover w.readings)
            w₂ verdict.isValid
      | .error f => Stopped call (.map w.readings) w₀ w₁ f ∧
          HandsOverNothing submit call w f w₁ := by
  refine ⟨w.keys_readings, fun _ hb => World.find?_readings hb, validateAll_callsOnly _, ?_⟩
  obtain ⟨w₀, outcome, w₁, reports, collected, passed, options, ends⟩ :=
    submit_passes hcall htiers
  refine ⟨w₀, outcome, w₁, reports, passed, ?_⟩
  rcases ends with ⟨verdict, rfl⟩ | ⟨f, rfl, stopped⟩
  · have texts : ∀ name ∈ verdict.failed, name.isStr = true :=
      isStr_of_mem_failed hcall htext ⟨w.readings, rfl⟩ (reports.form ▸ htiers)
        (reports.form ▸ hnames) passed
    rw [← options]
    exact submit_handsOver collected passed (Or.inr texts)
  · exact ⟨stopped, submit_handsOverNothing_of_error collected passed⟩

/-- Functions that meddle answer no mapping. -/
theorem namesByText_meddler : Session.meddler.NamesByText := by
  intro f context w result w' failures answered mentioned
  have affirms : ((Session.meddler f (.form context)).runIn w).1 = .ok (.bool true) := rfl
  rw [answered] at affirms
  cases affirms
  cases mentioned
  simp

/-- The reject function is told `b`, which is unregistered by then, and gets all three values. -/
theorem meddled_rejected :
    ∃ w₂, HandsOver submit Session.meddler Session.meddled .ignore
      (.rejected [.str "b"] (.map [(.str "a", .null), (.str "b", .null), (.str "c", .null)]))
      w₂ false := by
  obtain ⟨-, -, -, w₀, outcome, w₁, ⟨events, rfl⟩, passed, dispatched⟩ :=
    submit_dispatches (Session.callWith_benign Session.meddling_orderly 1) namesByText_meddler
      (w := Session.meddled) (decisive_ofOptions _) (by decide)
  have verdict : ((validateAll Session.meddler (.map Session.meddled.readings)).runIn
      { Session.meddled with trace := events ++ Session.meddled.trace }).1 =
        .ok ⟨false, [.str "b"]⟩ := rfl
  rw [passed] at verdict
  cases verdict
  obtain ⟨w₂, -, handed⟩ := dispatched
  exact ⟨w₂, handed⟩

/-- A function that blames `a` for something. -/
def accusing (detail : Value) : Session.Behaviour :=
  fun _ _ _ => .answer (.map [(.str "a", detail)])

theorem accusing_orderly (detail : Value) : (accusing detail).Orderly where
  requests _ _ _ := trivial
  answers _ _ _ _ := trivial

/-- How functions that blame `a` are called. -/
abbrev accuser (detail : Value) : Caller :=
  Session.callWith (accusing detail) (Session.perform (accusing detail) 1)

theorem accuser_benign (detail : Value) : (accuser detail).Benign :=
  Session.callWith_benign (accusing_orderly detail) 1

theorem namesByText_accuser (detail : Value) : (accuser detail).NamesByText := by
  intro f context w result w' failures answered mentioned
  have blames : ((accuser detail f (.form context)).runIn w).1 = .ok (.map [(.str "a", detail)]) :=
    rfl
  rw [answered] at blames
  cases blames
  cases mentioned
  simp [Table.keys, Value.isStr]

/-- A form with a field `a`, an override of whole passes and what it calls for a rejection. -/
def judged (reject : Hook) : World :=
  { World.initial ⟨.empty "standard", .empty "file"⟩
      { ofOptions { FormOptions.default with
          accept := .ignore, reject := reject, validateAll := .function ⟨.validateAll, 0, 0⟩ } with
        fields := FieldTable.empty.add (.str "a") ⟨0, none⟩ } with
    objects := [{ (default : Field) with name := .str "a" }] }

theorem isOpened_judged (reject : Hook) : (judged reject).form.IsOpened :=
  ⟨(judged reject).form.options, ofOptions (judged reject).form.options, rfl, rfl⟩

theorem runIn_validateAll_accuser {detail : Value} (mute : detail.IsMute) (context : Value) :
    ∃ w', (validateAll (accuser detail) context).runIn (judged .ignore) =
      (.error .longInteger, w') := by
  obtain ⟨result, w₁, w₂, answered, passed⟩ :=
    runIn_validateAll_override (accuser_benign detail) context (w := judged .ignore) rfl
  obtain rfl : Value.map [(.str "a", detail)] = result :=
    Except.ok.inj (congrArg Prod.fst answered)
  have given : GivesMute (judged .ignore).form.fields.keys [(.str "a", detail)] :=
    givesMute_cons_iff.mpr (.inl ⟨rfl, mute⟩)
  exact ⟨w₂, passed.trans (Prod.ext (if_pos given) rfl)⟩

/-- Although nothing that the client has handed over fails, a form may be rejected without a call:
its reject option may be no function, and a detail that cannot be written stops the pass. -/
theorem judged_calls_nothing :
    (∃ w', (judged (.value (.int 5))).form.IsOpened ∧
      (accuser (.str "Taken.")).Benign ∧ (accuser (.str "Taken.")).NamesByText ∧
      HandsOverNothing submit (accuser (.str "Taken.")) (judged (.value (.int 5)))
        .typeMismatch w') ∧
    ∃ w', (judged .ignore).form.IsOpened ∧
      (accuser (.int (Nat.pow 10 Value.digitLimit))).Benign ∧
      (accuser (.int (Nat.pow 10 Value.digitLimit))).NamesByText ∧
      HandsOverNothing submit (accuser (.int (Nat.pow 10 Value.digitLimit))) (judged .ignore)
        .longInteger w' := by
  constructor
  · have collected : values.runIn (judged (.value (.int 5))) =
        (.ok [(.str "a", .null)], judged (.value (.int 5))) := rfl
    have passed : (validateAll (accuser (.str "Taken.")) (.map [(.str "a", .null)])).runIn
        (judged (.value (.int 5))) = (.ok ⟨false, [.str "a"]⟩, _) := rfl
    obtain ⟨w₂, -, handed⟩ := submit_handsOver collected passed (.inr (by simp [Value.isStr]))
    exact ⟨w₂, isOpened_judged _, accuser_benign _, namesByText_accuser _, handed.nothing nofun⟩
  · have collected : values.runIn (judged .ignore) =
        (.ok [(.str "a", .null)], judged .ignore) := rfl
    have mute : (Value.int (Nat.pow 10 Value.digitLimit)).IsMute := by decide +kernel
    obtain ⟨w₂, passed⟩ := runIn_validateAll_accuser mute (.map [(.str "a", .null)])
    exact ⟨w₂, isOpened_judged _, accuser_benign _, namesByText_accuser _,
      submit_handsOverNothing_of_error collected passed⟩

/-- A form that has been opened, and that can report on names that several fields share: those can
be written. -/
structure IsSubmittable (f : Form) : Prop where
  opened : f.IsOpened
  writable : ∀ b ∈ f.fields.buckets, 2 ≤ b.2.length → b.1.holdsLongInteger = false

/-- **When a submission calls a function.**  If the form is valid, or the names that fail are texts
and the reject function can be called, then exactly one function takes over the outcome, and the
submission fails only if that function does.  Otherwise, and where the pass is stopped, it fails
before it calls either. -/
theorem submit_calls_one_or_none (hcall : call.Benign) (hform : w.form.IsSubmittable) :
    ∃ w₀ outcome w₁, w.Reports w₀ ∧
      (validateAll call (.map w.readings)).runIn w₀ = (outcome, w₁) ∧
      match outcome with
      | .ok verdict => ∃ w₂, w₁.Reports w₂ ∧
          (verdict.HasReceiver w.form.options →
            (verdict.receiver w.form.options).isCallable = true ∧
            HandsOver submit call w (verdict.receiver w.form.options)
              (verdict.handover w.readings) w₂ verdict.isValid) ∧
          (¬ verdict.HasReceiver w.form.options →
            HandsOverNothing submit call w .typeMismatch w₂)
      | .error f => Stopped call (.map w.readings) w₀ w₁ f ∧
          HandsOverNothing submit call w f w₁ := by
  obtain ⟨w₀, outcome, w₁, reports, collected, passed, options, ends⟩ :=
    submit_passes hcall hform.opened.decisive
  refine ⟨w₀, outcome, w₁, reports, passed, ?_⟩
  rcases ends with ⟨verdict, rfl⟩ | ⟨f, rfl, stopped⟩
  · by_cases reportable : verdict.IsReportable
    · obtain ⟨w₂, reports', handed⟩ := submit_handsOver collected passed reportable
      rw [options] at handed
      refine ⟨w₂, reports', fun has => ?_, fun has => ?_⟩
      · exact ⟨has.isCallable hform.opened.accepts, handed⟩
      · exact handed.nothing (Verdict.not_isCallable_of_not_hasReceiver has reportable)
    · refine ⟨w₁, .refl w₁, fun has => ?_, fun _ => ?_⟩
      · exact absurd has.isReportable reportable
      · exact submit_handsOverNothing collected passed reportable
  · exact ⟨stopped, submit_handsOverNothing_of_error collected passed⟩

/-- A form whose one field is named by a number, and does not pass. -/
def numbered : World :=
  { World.initial ⟨.empty "standard", .empty "file"⟩
      { ofOptions { FormOptions.default with accept := .ignore } with
        fields := FieldTable.empty.add (.int 5) ⟨0, none⟩ } with
    objects := [{ (default : Field) with name := .int 5, validator := .ignore }] }

theorem isSubmittable_numbered : numbered.form.IsSubmittable where
  opened := ⟨{ FormOptions.default with accept := .ignore }, ofOptions _, rfl, rfl⟩
  writable b hb several := by
    obtain rfl := List.mem_singleton.mp hb
    exact absurd several (by decide)

/-- Neither function is called, although nothing that the client has handed over fails. -/
theorem numbered_calls_nothing :
    ∃ w₂, HandsOverNothing submit .idle numbered .typeMismatch w₂ := by
  obtain ⟨w₀, outcome, w₁, ⟨events, rfl⟩, passed, dispatched⟩ :=
    submit_calls_one_or_none Caller.idle_benign isSubmittable_numbered
  have verdict : ((validateAll .idle (.map numbered.readings)).runIn
      { numbered with trace := events ++ numbered.trace }).1 = .ok ⟨false, [.int 5]⟩ := rfl
  rw [passed] at verdict
  cases verdict
  obtain ⟨w₂, -, -, nothing⟩ := dispatched
  refine ⟨w₂, nothing fun has => ?_⟩
  simpa [Verdict.IsReportable, Value.isStr] using has.isReportable

end Form

end FormRules
