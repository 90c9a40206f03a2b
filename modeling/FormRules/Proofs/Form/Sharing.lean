/-
# Shared names — whether a form with one can be accepted

A name that several fields share has no value and no check of its own.  A submission reads `false`
for it, with a warning, and what becomes of the form then depends on who decides about it:

    the pass is decided by                          submission of a form with a shared name
    checks, name by name                            is rejected, or fails before it calls anything
    the override, which answers `true`              is accepted
    the override, which answers anything else       is rejected, or fails before it calls anything

A pass that checks name by name never leaves a shared name out (`mem_failed_of_shared`), whatever
tiers the form has and whatever the functions of the client do meanwhile.  An override of whole
passes is asked instead of all that, and nothing asks for shared names after it: if it affirms the
form, then the accept function gets `false` for the name (`submit_of_affirms`).

Nothing is assumed of the functions of the client: they may fail, change the form, or submit it.
-/
import FormRules.Proofs.Form.Recording
import FormRules.Proofs.Form.Validity
import FormRules.Proofs.Session.History

namespace FormRules

open FormM

namespace FieldTable

/-- A name is shared if it is that of a registered name with several registrations. -/
theorem exists_of_isAmbiguous {t : FieldTable} {name : Value} (h : t.isAmbiguous name = .ok true) :
    name.isKey = true ∧ ∃ b ∈ t.buckets, b.1.same name = true ∧ 2 ≤ b.2.length := by
  unfold isAmbiguous bucket? at h
  by_cases hname : name.isKey = true
  · rw [if_pos hname, ok_bind] at h
    have count := Except.ok.inj h
    cases found : t.buckets.find? name with
    | none => simp [found] at count
    | some entries =>
        obtain ⟨key, listed, same⟩ := Table.mem_of_find? found
        have several : 1 < entries.length := by simpa [found] using count
        exact ⟨hname, (key, entries), listed, same, several⟩
  · rw [if_neg hname] at h
    cases h

end FieldTable

/-- The reading of a shared name is `false`. -/
theorem World.find?_readings_of_isAmbiguous {w : World} {name : Value}
    (h : w.form.fields.isAmbiguous name = .ok true) :
    w.readings.find? name = some (.bool false) := by
  obtain ⟨hname, b, hb, same, several⟩ := FieldTable.exists_of_isAmbiguous h
  have hkey : b.1.isKey = true := w.form.fields.isKey b hb
  rw [← Table.find?_congr hkey same, find?_readings hb]
  match entries : b.2 with
  | [] | [_] => simp [entries] at several
  | _ :: _ :: _ => rfl

namespace Form

variable {call : Caller} {context : Value} {w w' : World} {name : Value}

/-! ## Passes -/

/-- A pass that checks name by name finds that a shared name fails. -/
theorem mem_failed_of_shared {fields : FieldTable} {b : Value × List Entry}
    (hb : b ∈ fields.buckets) (several : 2 ≤ b.2.length) {names failed : List Value}
    (listed : b.1 ∈ names) (ran : (failing call fields context names).runIn w = (.ok failed, w')) :
    b.1 ∈ failed := by
  induction names generalizing w w' failed with
  | nil => cases listed
  | cons name rest ih =>
      obtain ⟨valid, w₁, checked, ran⟩ := exists_of_runIn_bind ran
      obtain ⟨later, w₂, onward, ran⟩ := exists_of_runIn_bind ran
      obtain rfl := Except.ok.inj (congrArg Prod.fst ran)
      rcases List.mem_cons.mp listed with rfl | listed
      · -- The name itself: there is no check of it, so the pass goes on with `false`.
        have found := FieldTable.entry_of_mem hb
        rcases FieldTable.one_or_more hb with ⟨e, one⟩ | ⟨e, e', more, many⟩
        · simp [one] at several
        · rw [many] at found
          rw [validateIn, found] at checked
          obtain rfl : false = valid := Except.ok.inj (congrArg Prod.fst checked)
          exact List.mem_cons_self
      · have later := ih listed onward
        split
        · exact later
        · exact List.mem_cons_of_mem _ later

/-- A pass that checks name by name gives no valid verdict on a form with a shared name. -/
theorem isValid_of_validateAll_of_shared (shared : w.form.fields.isAmbiguous name = .ok true)
    (hover : w.form.wholeOverride.isCallable = false) {verdict : Verdict}
    (ran : (validateAll call context).runIn w = (.ok verdict, w')) : verdict.isValid = false := by
  obtain ⟨-, b, hb, -, several⟩ := FieldTable.exists_of_isAmbiguous shared
  have listed : b.1 ∈ w.form.fields.keys := List.mem_map_of_mem hb
  have passed := ran
  rw [validateAll, runIn_bind_ok (runIn_form w), if_neg (by simp [hover])] at passed
  obtain ⟨failed, w₁, found, passed⟩ := exists_of_runIn_bind passed
  cases congrArg Prod.fst passed
  have mem : b.1 ∈ failed := mem_failed_of_shared hb several listed found
  exact List.isEmpty_eq_false_iff.mpr (List.ne_nil_of_mem mem)

/-! ## Submissions -/

/-- When the form is submitted, there is an override of whole passes, and it answers `true`. -/
def Affirms (call : Caller) (w : World) : Prop :=
  w.form.wholeOverride.isCallable = true ∧ ∃ w₁,
    (callHook call w.form.wholeOverride (.form (.map w.readings))).runIn (values.runIn w).2 =
      (.ok (.bool true), w₁)

/-- Submitting the form calls the reject function, or neither of the two: not the accept function,
however the two behave. -/
def Withholds (call : Caller) (w : World) : Prop :=
  (∃ f w₁, HandsOverNothing submit call w f w₁) ∨ ∃ failed w₁,
    HandsOver submit call w w₁.form.options.reject (.rejected failed (.map w.readings)) w₁ false

/-- A submission whose pass ends with a verdict that is not valid withholds the form. -/
theorem withholds_of_invalid {verdict : Verdict} {w₀ w₁ : World}
    (collected : values.runIn w = (.ok w.readings, w₀))
    (passed : (validateAll call (.map w.readings)).runIn w₀ = (.ok verdict, w₁))
    (invalid : verdict.isValid = false) : Withholds call w := by
  by_cases reportable : verdict.IsReportable
  · obtain ⟨w₂, reports, handed⟩ := submit_handsOver collected passed reportable
    have receiver : verdict.receiver w₁.form.options = w₂.form.options.reject := by
      rw [Verdict.receiver, invalid, reports.form]
      rfl
    have handover : verdict.handover w.readings = .rejected verdict.failed (.map w.readings) := by
      rw [Verdict.handover, invalid]
      rfl
    rw [receiver, handover, invalid] at handed
    exact .inr ⟨verdict.failed, w₂, handed⟩
  · exact .inl ⟨_, w₁, submit_handsOverNothing collected passed reportable⟩

/-- A form that the override affirms is accepted with its readings, whatever they are. -/
theorem submit_of_affirms (hcall : call.Benign) (affirms : Affirms call w) :
    ∃ w₁, HandsOver submit call w w₁.form.options.accept (.accepted (.map w.readings)) w₁ true := by
  obtain ⟨hover, w₂, answered⟩ := affirms
  obtain ⟨w₀, reports, collected⟩ := runIn_values w
  have form₀ : w₀.form = w.form := reports.form
  rw [collected, ← form₀] at answered
  obtain ⟨result, w₂', w₁, answered', passed⟩ :=
    runIn_validateAll_override hcall (.map w.readings) (form₀ ▸ hover)
  obtain rfl : Value.bool true = result :=
    Except.ok.inj (congrArg Prod.fst (answered.symm.trans answered'))
  obtain ⟨w₃, reports', handed⟩ := submit_handsOver collected passed (.inl rfl)
  refine ⟨w₃, ?_⟩
  rw [reports'.form]
  exact handed

/-- **When a form with a shared name is accepted.**  Submitting it calls the accept function only if
an override of whole passes answers `true`.  That override decides the form alone, and what the form
is accepted with is then `false` for the name. -/
theorem submit_withholds (shared : w.form.fields.isAmbiguous name = .ok true) :
    (¬ Affirms call w → Withholds call w) ∧
      (Affirms call w → call.Benign → w.readings.find? name = some (.bool false) ∧ ∃ w₁,
        HandsOver submit call w w₁.form.options.accept (.accepted (.map w.readings)) w₁ true) := by
  refine ⟨fun plain => ?_, fun affirms hcall => ?_⟩
  · obtain ⟨w₀, reports, collected⟩ := runIn_values w
    have form₀ : w₀.form = w.form := reports.form
    rcases passed : (validateAll call (.map w.readings)).runIn w₀ with ⟨f | verdict, w₁⟩
    · exact .inl ⟨f, w₁, submit_handsOverNothing_of_error collected passed⟩
    · refine withholds_of_invalid collected passed ?_
      cases hover : w.form.wholeOverride.isCallable with
      | false => exact isValid_of_validateAll_of_shared (form₀ ▸ shared) (form₀ ▸ hover) passed
      | true =>
          obtain ⟨result, w₂, answered, rfl⟩ :=
            exists_answer_of_validateAll (form₀ ▸ hover) passed
          refine Bool.eq_false_iff.mpr fun affirmed => plain ⟨hover, w₂, ?_⟩
          rw [collected, ← form₀, answered, Value.isTrue_iff.mp affirmed]
  · exact ⟨World.find?_readings_of_isAmbiguous shared, submit_of_affirms hcall affirms⟩

/-- Two fields share the name `a`, and no override affirms the form. -/
theorem twins_withheld :
    twins.form.fields.isAmbiguous (.str "a") = .ok true ∧ Withholds .idle twins := by
  have plain : ¬ Affirms .idle twins := fun affirms => Bool.noConfusion affirms.1
  have shared : twins.form.fields.isAmbiguous (.str "a") = .ok true := rfl
  exact ⟨shared, (submit_withholds shared).1 plain⟩

end Form

/-! ## A form with a shared name that is accepted -/

namespace Session

/-- A function that answers `true`. -/
def affirming : Behaviour := fun _ _ _ => .answer (.bool true)

theorem affirming_orderly : affirming.Orderly where
  requests _ _ _ := trivial
  answers _ _ _ _ := trivial

/-- How functions that answer `true` are called. -/
abbrev affirmer : Caller := callWith affirming (perform affirming 1)

/-- A request to register a new field with the name `a`. -/
def registerAs (id : String) : Request :=
  .register id (some { (default : FieldSource) with name := .str "a" })

/-- The world of a form with an override that answers `true`, once two fields with the name `a` have
been registered. -/
def crowded : World :=
  after affirming (begun (.options [(.accept, .script 0), (.validateAll, .script 1)]) .builtin)
    [registerAs "x", registerAs "y"]

/-- The form is accepted, with `false` for the name. -/
theorem crowded_accepted :
    crowded.form.fields.isAmbiguous (.str "a") = .ok true ∧ ∃ w₁,
      HandsOver Form.submit affirmer crowded w₁.form.options.accept
        (.accepted (.map [(.str "a", .bool false)])) w₁ true := by
  have affirms : Form.Affirms affirmer crowded := ⟨rfl, _, rfl⟩
  exact ⟨rfl, Form.submit_of_affirms (callWith_benign affirming_orderly 1) affirms⟩

end Session

end FormRules
