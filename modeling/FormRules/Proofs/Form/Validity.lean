/-
# Validity — when a verdict is valid exactly if no name fails

A verdict says whether the form is valid, and which names fail.  The two are read off different
things, and they agree on every line of this table but the third and the last:

    pass                                          valid                names that fail
    without an override                           if no name fails     those whose check fails
    the override answers `true`                   yes                  none
    the override answers a mapping, empty         no                   none
    the override answers a mapping, not empty     no                   its keys
    the override answers anything else            no                   none

An override that answers an empty mapping has found no failure, and yet the form is invalid: a
submission is then rejected, and the reject function is told no name.  A pass that is stopped, by
compiled rules or at a detail of the override that cannot be written, gives no verdict at all.
-/
import FormRules.Proofs.Form.Submission

namespace FormRules

open FormM

namespace Form

/-- An answer of a whole-form override that is not `true` and mentions no failure. -/
def BlamesNothing (result : Value) : Prop :=
  result.isTrue = false ∧ ∀ failures, failuresOf? result = some failures → failures = []

variable {call : Caller} {context result : Value} {names : List Value} {verdict : Verdict}
  {w w' : World}

theorem isValid_iff_of_validateAll (hover : w.form.wholeOverride.isCallable = false)
    (ran : (validateAll call context).runIn w = (.ok verdict, w')) :
    verdict.isValid = true ↔ verdict.failed = [] := by
  rw [validateAll, runIn_bind_ok (runIn_form w), if_neg (by simp [hover])] at ran
  obtain ⟨failed, _, -, ran⟩ := exists_of_runIn_bind ran
  cases congrArg Prod.fst ran
  exact List.isEmpty_iff

/-- The answer of an override that is `true` mentions no failure. -/
theorem failuresOf?_of_isTrue (h : result.isTrue = true) : failuresOf? result = some [] := by
  rw [Value.isTrue_iff.mp h]
  rfl

/-- The two parts of a verdict on an answer agree unless the answer blames nothing. -/
theorem isValid_iff_iff (result : Value) :
    ((result.isTrue = true ↔ Table.keys ((failuresOf? result).getD []) = []) ↔
      ¬ BlamesNothing result) := by
  cases affirms : result.isTrue with
  | true => simp [BlamesNothing, affirms, failuresOf?_of_isTrue affirms, Table.keys]
  | false =>
      cases mentioned : failuresOf? result with
      | none => simp [BlamesNothing, affirms, mentioned, Table.keys]
      | some failures => simp [BlamesNothing, affirms, mentioned, Table.keys]

/-- **When a verdict is valid exactly if no name fails.**  A form that is valid never has a name that
fails.  A form that is invalid has one, unless the override of whole passes has answered something
other than `true` that mentions no failure.  And there is a verdict, unless compiled rules break the
pass off or the override gives a registered name a detail that cannot be written. -/
theorem validateAll_isValid_iff (call : Caller) (context : Value) (w : World) :
    (∀ verdict w', (validateAll call context).runIn w = (.ok verdict, w') →
      (verdict.isValid = true → verdict.failed = []) ∧
      (w.form.wholeOverride.isCallable = false →
        (verdict.isValid = true ↔ verdict.failed = [])) ∧
      (w.form.wholeOverride.isCallable = true → ∃ result w₁,
        (callHook call w.form.wholeOverride (.form context)).runIn w = (.ok result, w₁) ∧
        ((verdict.isValid = true ↔ verdict.failed = []) ↔ ¬ BlamesNothing result))) ∧
    (call.Benign → context.IsMapping → w.form.Decisive →
      ∃ outcome w', (validateAll call context).runIn w = (outcome, w') ∧
        ((∃ verdict, outcome = .ok verdict) ∨
          ∃ f, outcome = .error f ∧ Stopped call context w w' f)) := by
  constructor
  · intro verdict w' ran
    cases hover : w.form.wholeOverride.isCallable with
    | false =>
        have agree := isValid_iff_of_validateAll hover ran
        exact ⟨agree.mp, fun _ => agree, nofun⟩
    | true =>
        obtain ⟨result, w₁, answered, rfl⟩ := exists_answer_of_validateAll hover ran
        refine ⟨fun affirms => ?_, nofun, fun _ => ⟨result, w₁, answered, isValid_iff_iff result⟩⟩
        exact congrArg (Table.keys <| Option.getD · []) (failuresOf?_of_isTrue affirms)
  · intro hcall hcontext htiers
    rcases ran : (validateAll call context).runIn w with ⟨outcome, w'⟩
    exact ⟨outcome, w', rfl, validateAll_ends hcall hcontext htiers ran⟩

end Form

/-! ## A form that is rejected for nothing -/

namespace Session

/-- A function that answers an empty mapping. -/
def content : Behaviour := fun _ _ _ => .answer (.map [])

theorem content_orderly : content.Orderly where
  requests _ _ _ := trivial
  answers _ _ _ _ := trivial

/-- How functions that answer an empty mapping are called. -/
abbrev contented : Caller := callWith content (perform content 1)

/-- A form without fields whose override of whole passes answers an empty mapping. -/
def overridden : World :=
  World.initial ⟨.empty "standard", .empty "file"⟩
    (Form.ofOptions { FormOptions.default with
      accept := .ignore, validateAll := .function ⟨.validateAll, 0, 0⟩ })

theorem isOpened_overridden : overridden.form.IsOpened :=
  ⟨overridden.form.options, overridden.form, rfl, rfl⟩

/-- The override reports no failure, but the form is invalid, and the reject function is told no
name. -/
theorem overridden_rejected :
    ∃ w₁, (Form.validateAll contented (.map [])).runIn overridden = (.ok ⟨false, []⟩, w₁) ∧
      (∃ result w', (callHook contented overridden.form.wholeOverride (.form (.map []))).runIn
          overridden = (.ok result, w') ∧ Form.BlamesNothing result) ∧
      ∃ w₂, HandsOver Form.submit contented overridden .ignore (.rejected [] (.map [])) w₂ false := by
  obtain ⟨agrees, gives⟩ := Form.validateAll_isValid_iff contented (.map []) overridden
  obtain ⟨outcome, w₁, ran, -⟩ := gives (callWith_benign content_orderly 1)
    (⟨[], rfl⟩ : (Value.map []).IsMapping) isOpened_overridden.decisive
  have verdict : ((Form.validateAll contented (.map [])).runIn overridden).1 =
      .ok ⟨false, []⟩ := rfl
  have receives : ((Form.validateAll contented (.map [])).runIn overridden).2.form.options.reject =
      .ignore := rfl
  rw [ran] at verdict receives
  subst verdict
  obtain ⟨-, -, agree⟩ := agrees _ _ ran
  obtain ⟨result, w', answered, agree⟩ := agree rfl
  refine ⟨w₁, ran, ⟨result, w', answered, not_not.mp (agree.not.mp (by simp))⟩, ?_⟩
  have collected : Form.values.runIn overridden = (.ok [], overridden) := rfl
  obtain ⟨w₂, -, handed⟩ := Form.submit_handsOver collected ran (.inr (by simp))
  exact ⟨w₂, receives ▸ handed⟩

end Session

end FormRules
