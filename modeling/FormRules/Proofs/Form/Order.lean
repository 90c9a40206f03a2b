/-
# Order — fields that are validated one by one, in any order

A pass goes through the registered names in their order.  A client may as well validate one name
after the other, in an order of its own.  Where checks depend on their arguments only and do nothing
else (`Caller.Answers`), both come to the same:

    what                              one pass            one by one, in any order
    is found for a name               `World.finding`     `World.finding`
    becomes of the table of errors    one record for each finding, in the order of the names
    is found under a name then        the record of its own finding, or what was there before
    fails                             the names whose finding does not pass, in the order of the form

The registrations, the fields and the readings stay as they are, so that every finding is the one of
the first world (`finding_of_sameGround`).  Records for names that differ commute, as far as it
matters what is found under a name (`find?_foldl_record_perm`), and a record that is there already
changes nothing (`foldl_record_eq_self`): hence a second pass leaves the table as the first one did.

Nothing is asked of the tiers or of the names: some may be shared, and some may have entries from
before.
-/
import FormRules.Proofs.Form.Quiet
import Mathlib.Data.List.Perm.Basic

namespace FormRules

open FormM Treatment

/-! ## Functions that answer -/

/-- Registries, fields and the form are as before. -/
def World.SameState (w w' : World) : Prop :=
  w'.registries = w.registries ∧ w'.objects = w.objects ∧ w'.form = w.form

namespace World.SameState

variable {w w' w'' : World}

theorem refl (w : World) : w.SameState w := ⟨rfl, rfl, rfl⟩

theorem trans (h : w.SameState w') (h' : w'.SameState w'') : w.SameState w'' :=
  ⟨h'.1.trans h.1, h'.2.1.trans h.2.1, h'.2.2.trans h.2.2⟩

theorem of_reports : w.Reports w' → w.SameState w' := by
  rintro ⟨_, rfl⟩
  exact refl w

theorem form (h : w.SameState w') : w'.form = w.form := h.2.2

theorem sameGround (h : w.SameState w') : w.SameGround w' := by
  obtain ⟨registries, objects, form⟩ := h
  rw [SameGround, ground, ground, registries, objects, form]

end World.SameState

/-- Functions of the client that leave everything alone.  What an override or a validator comes to
depends on what it is called with only; a listener returns, and what it gives does not matter. -/
structure Caller.Answers (call : Caller) (answer : Callback → Arguments → Outcome Value) :
    Prop where
  answers : ∀ f args w, ¬ args.IsOutcome → ¬ args.IsChange →
    ∃ w', w.SameState w' ∧ (call f args).runIn w = (answer f args, w')
  listens : ∀ f args w, args.IsChange →
    ∃ v w', w.SameState w' ∧ (call f args).runIn w = (.ok v, w')

namespace Caller.Answers

variable {call : Caller} {answer : Callback → Arguments → Outcome Value} (h : call.Answers answer)

include h

theorem runIn_notify (previous : Table Value) (subscriptions : List Subscription) (w : World) :
    ∃ w', w.SameState w' ∧ (Form.notify call previous subscriptions).runIn w = (.ok (), w') := by
  induction subscriptions generalizing w with
  | nil => exact ⟨w, .refl w, rfl⟩
  | cons s rest ih =>
      obtain ⟨v, w₁, same, heard⟩ :=
        h.listens s.listener (.change (.map previous) (.map w.form.errors.table)) w trivial
      obtain ⟨w₂, same', later⟩ := ih w₁
      refine ⟨w₂, same.trans same', ?_⟩
      rw [Form.notify, runIn_bind_ok (runIn_form w), runIn_bind_ok heard]
      exact later

/-- Recording for a name does that and no more. -/
theorem runIn_setError {name detail stored : Value} {isError : Bool} (hname : name.isKey = true)
    (said : Form.errorValue isError detail = .ok stored) (w : World) :
    ∃ w', w.SameGround w' ∧
      w'.form.errors.table = w.form.errors.table.put name stored ∧
      (Form.setError call name isError detail).runIn w = (.ok stored, w') := by
  have recorded := World.sameGround_frame.recording w name stored
    (Form.isEntry_of_errorValue said) trivial hname
  obtain ⟨w', same, notified⟩ := h.runIn_notify w.form.errors.table w.form.errors.listeners
    (w.recording name stored)
  refine ⟨w', World.sameGround_frame.trans recorded same.sameGround, ?_, ?_⟩
  · rw [same.form]
    rfl
  · rw [Form.runIn_setError hname said, runIn_map, notified]
    rfl

/-- What can be called comes to the same in every world. -/
theorem runIn_callHook (args : Arguments) (h₁ : ¬ args.IsOutcome) (h₂ : ¬ args.IsChange)
    (hook : Hook) (w w' : World) :
    ∃ w'', w'.SameState w'' ∧
      (callHook call hook args).runIn w' = (((callHook call hook args).runIn w).1, w'') := by
  cases hook with
  | value v => exact ⟨w', .refl w', rfl⟩
  | ignore => exact ⟨w', .refl w', rfl⟩
  | function f =>
      obtain ⟨w₁, -, ran⟩ := h.answers f args w h₁ h₂
      obtain ⟨w'', same, ran'⟩ := h.answers f args w' h₁ h₂
      refine ⟨w'', same, ?_⟩
      show (call f args).runIn w' = (((call f args).runIn w).1, w'')
      rw [ran, ran']

/-- A check comes to the same wherever the ground is the same. -/
theorem runIn_runCheck {w w' : World} (ground : w.SameGround w') (field : FieldId)
    (name value context : Value) (check : Check) :
    ∃ w'', w'.SameState w'' ∧ (Form.runCheck call field name value context check).runIn w' =
      (((Form.runCheck call field name value context check).runIn w).1, w'') := by
  cases check with
  | formOverride hook => exact h.runIn_callHook (.field name value context) id id hook w w'
  | fieldOverride hook => exact h.runIn_callHook (.value value context) id id hook w w'
  | rules chain =>
      obtain ⟨_, -, ran⟩ := Form.runIn_runChain field chain value w
      obtain ⟨w'', reports, ran'⟩ := Form.runIn_runChain field chain value w'
      refine ⟨w'', .of_reports reports, ?_⟩
      rw [Form.runCheck, ran, ran', ground.registries, ground.field, ground.defaultHelp]
  | always => exact ⟨w', .refl w', rfl⟩

end Caller.Answers

/-! ## Findings -/

namespace World

theorem SameGround.reading {w w' : World} (h : w.SameGround w') : w'.reading = w.reading := by
  funext entries
  unfold World.reading
  rw [h.field]

theorem SameGround.readings {w w' : World} (h : w.SameGround w') : w'.readings = w.readings := by
  rw [World.readings, World.readings, h.fields, h.reading]

/-- What is found for the registrations of a name: what the first check of its one field comes to,
asked with the readings of the form. -/
def finding (call : Caller) (w : World) (b : Value × List Entry) : Finding :=
  match b.2 with
  | [e] => match Form.firstCheck? (w.field e.field) e.chain w.form.tiers with
    | some check =>
        match ((Form.runCheck call e.field b.1 (w.field e.field).current (.map w.readings)
          check).runIn w).1 with
        | .ok result => .checked result
        | .error f => .raised f
    | none => .raised .noTier
  | _ => .shared

theorem finding_of_several {w : World} {b : Value × List Entry} (call : Caller)
    (h : ∀ e, b.2 ≠ [e]) : w.finding call b = .shared := by
  unfold finding
  split
  · rename_i e one
    exact absurd one (h e)
  · rfl

/-- What is found for one registration is the result of its first check, if nothing is raised. -/
theorem exists_of_finding {call : Caller} {w : World} {name : Value} {e : Entry}
    (h : ∀ f, w.finding call (name, [e]) ≠ .raised f) :
    ∃ check result, Form.firstCheck? (w.field e.field) e.chain w.form.tiers = some check ∧
      ((Form.runCheck call e.field name (w.field e.field).current (.map w.readings)
        check).runIn w).1 = .ok result ∧
      w.finding call (name, [e]) = .checked result := by
  cases first : Form.firstCheck? (w.field e.field) e.chain w.form.tiers with
  | none => exact absurd (by simp [finding, first]) (h .noTier)
  | some check =>
      cases ran : ((Form.runCheck call e.field name (w.field e.field).current (.map w.readings)
          check).runIn w).1 with
      | error f => exact absurd (by simp [finding, first, ran]) (h f)
      | ok result => exact ⟨check, result, rfl, ran, by simp [finding, first, ran]⟩

/-- The treatment of a name by itself. -/
def treating (call : Caller) (w : World) (b : Value × List Entry) : Treatment where
  name := b.1
  entries := b.2
  finding := w.finding call b
  before := w
  after := ((Form.validateIn call w.form.fields b.1 (.map w.readings)).runIn w).2

/-- The ground is that of `w`, and the errors are those of `w₁` with the records of treatments. -/
structure Recorded (w w₁ : World) (ts : List Treatment) (w₂ : World) : Prop where
  ground : w.SameGround w₂
  table : w₂.form.errors.table = ts.foldl record w₁.form.errors.table

namespace Recorded

variable {w w₁ w₂ w₃ : World} {ts ts' : List Treatment}

theorem nil (ground : w.SameGround w₁) : w.Recorded w₁ [] w₁ := ⟨ground, rfl⟩

theorem append (h : w.Recorded w₁ ts w₂) (h' : w.Recorded w₂ ts' w₃) :
    w.Recorded w₁ (ts ++ ts') w₃ :=
  ⟨h'.ground, by rw [h'.table, h.table, List.foldl_append]⟩

/-- Reports may come before. -/
theorem of_reports (h : w.Recorded w₁ ts w₂) {w₀ : World} (reports : w₀.Reports w₁) :
    w.Recorded w₀ ts w₂ :=
  ⟨h.ground, by rw [h.table, reports.form]⟩

end Recorded

end World

/-! ## Records in any order -/

/-- An entry that is there already changes nothing. -/
theorem Table.put_eq_self {α : Type} {t : Table α} {key : Value} {value : α}
    (h : t.find? key = some value) : t.put key value = t := by
  induction t with
  | nil => cases h
  | cons e rest ih =>
      obtain ⟨k, v⟩ := e
      rw [find?] at h
      rw [put]
      split at h
      · rename_i here
        rw [if_pos here, Option.some.inj h]
      · rename_i elsewhere
        rw [if_neg elsewhere, ih h]

namespace Treatment

variable {ts ts' : List Treatment}

theorem pairwise_perm (hkeys : ∀ t ∈ ts, t.name.isKey = true)
    (distinct : (ts.map name).Pairwise fun a b => a.same b = false) (perm : ts'.Perm ts) :
    (ts'.map name).Pairwise fun a b => a.same b = false := by
  rw [List.pairwise_map] at distinct ⊢
  -- On keys it does not matter which name comes first, so that the order of the list does not.
  have both : ts.Pairwise fun t t' => t.name.same t'.name = false ∧ t'.name.same t.name = false :=
    distinct.imp_of_mem fun ht _ apart => ⟨apart, Value.same_comm (hkeys _ ht) ▸ apart⟩
  have permuted := (perm.pairwise_iff fun h => ⟨h.2, h.1⟩).mpr both
  exact permuted.imp fun h => h.1

/-- **What is found under a name does not depend on the order** in which treatments of distinct
names were recorded. -/
theorem find?_foldl_record_perm (hkeys : ∀ t ∈ ts, t.name.isKey = true)
    (distinct : (ts.map name).Pairwise fun a b => a.same b = false) (perm : ts'.Perm ts)
    (errors : Table Value) (sought : Value) :
    (ts'.foldl record errors).find? sought = (ts.foldl record errors).find? sought := by
  have hkeys' (t : Treatment) (ht : t ∈ ts') : t.name.isKey = true := hkeys t (perm.subset ht)
  have distinct' := pairwise_perm hkeys distinct perm
  by_cases treated : ∃ t ∈ ts, t.name.same sought = true
  · obtain ⟨t, ht, same⟩ := treated
    rw [← Table.find?_congr (hkeys t ht) same, ← Table.find?_congr (hkeys t ht) same,
      find?_foldl_record hkeys' distinct' (perm.mem_iff.mpr ht),
      find?_foldl_record hkeys distinct ht]
  · have apart (t : Treatment) (ht : t ∈ ts) : t.name.same sought = false :=
      Bool.eq_false_iff.mpr fun same => treated ⟨t, ht, same⟩
    rw [find?_foldl_record_of_not_same hkeys' fun t ht => apart t (perm.subset ht),
      find?_foldl_record_of_not_same hkeys apart]

/-- A treatment whose record is there changes nothing. -/
theorem record_eq_self {errors : Table Value} {t : Treatment} {entry : Option Value}
    (h : errors.find? t.name = recorded entry t) : record errors t = errors := by
  unfold recorded at h
  unfold record
  split at h
  · exact Table.put_eq_self h
  · rfl
  · rfl

theorem foldl_record_eq_self {errors : Table Value}
    (h : ∀ t ∈ ts, ∃ entry, errors.find? t.name = recorded entry t) :
    ts.foldl record errors = errors := by
  induction ts with
  | nil => rfl
  | cons t rest ih =>
      obtain ⟨⟨_, here⟩, later⟩ := List.forall_mem_cons.mp h
      rw [List.foldl_cons, record_eq_self here, ih later]

end Treatment

namespace Form

variable {call : Caller} {answer : Callback → Arguments → Outcome Value} {w w₁ : World}

section Answering

variable (hcall : call.Answers answer) (ground : w.SameGround w₁)

include hcall ground

/-! ## One name -/

/-- Deciding the one field of a name records its finding. -/
theorem runIn_validateEntry_finding {name : Value} {e : Entry}
    (hb : (name, [e]) ∈ w.form.fields.buckets)
    (settled : ∀ f, w.finding call (name, [e]) ≠ .raised f) :
    ∃ w₂, (validateEntry call name (.map w.readings) e).runIn w₁ =
        (.ok (w.finding call (name, [e])).passes, w₂) ∧
      w.Recorded w₁ [w.treating call (name, [e])] w₂ := by
  have hkey : name.isKey = true := w.form.fields.isKey _ hb
  obtain ⟨check, result, first, ran, finding⟩ := World.exists_of_finding settled
  obtain ⟨w₂, same, checks⟩ := hcall.runIn_runCheck ground e.field name
    (w.field e.field).current (.map w.readings) check
  obtain ⟨w₃, ground', table, records⟩ :=
    hcall.runIn_setError hkey (errorValue_messageOf result) w₂
  rw [← ground.field, ← ground.tiers] at first
  rw [ran] at checks
  refine ⟨w₃, ?_, ?_, ?_⟩
  · rw [runIn_validateEntry first (World.entry_readings hb), runIn_bind_ok checks,
      runIn_bind_ok records, finding]
    rfl
  · exact World.sameGround_frame.trans ground
      (World.sameGround_frame.trans same.sameGround ground')
  · rw [table, same.form]
    simp [record, World.treating, finding]

/-- Deciding a name records its finding. -/
theorem runIn_validateIn {b : Value × List Entry} (hb : b ∈ w.form.fields.buckets)
    (settled : ∀ f, w.finding call b ≠ .raised f) :
    ∃ w₂, (validateIn call w.form.fields b.1 (.map w.readings)).runIn w₁ =
        (.ok (w.finding call b).passes, w₂) ∧
      w.Recorded w₁ [w.treating call b] w₂ := by
  have found := FieldTable.entry_of_mem hb
  rcases FieldTable.one_or_more hb with ⟨e, one⟩ | ⟨e, e', more, many⟩
  · obtain ⟨name, entries⟩ := b
    obtain rfl : entries = [e] := one
    rw [validateIn, found]
    exact runIn_validateEntry_finding hcall ground hb settled
  · have finding : w.finding call b = .shared := World.finding_of_several call (by simp [many])
    refine ⟨w₁.noted (.log .warning (sharedName b.1 b.2.length ++ "; treating it as invalid")),
      ?_, ground, ?_⟩
    · rw [validateIn, found, many, finding]
      rfl
    · simp [record, World.treating, finding]

/-- Validating a name with the present values decides it. -/
theorem runIn_validateField {b : Value × List Entry} (hb : b ∈ w.form.fields.buckets)
    (settled : ∀ f, w.finding call b ≠ .raised f) :
    ∃ w₂, (validateField call b.1).runIn w₁ = (.ok (w.finding call b).passes, w₂) ∧
      w.Recorded w₁ [w.treating call b] w₂ := by
  obtain ⟨w', reports, collected⟩ := runIn_values w₁
  have ground' : w.SameGround w' := World.sameGround_frame.trans ground reports.sameGround
  obtain ⟨w₂, ran, recorded⟩ := runIn_validateIn hcall ground' hb settled
  refine ⟨w₂, ?_, recorded.of_reports reports⟩
  rw [validateField, runIn_bind_ok collected, validateOne, runIn_bind_ok (runIn_form w'),
    ground'.fields, ground.readings]
  exact ran

end Answering

/-! ## Several names -/

section Settled

variable (hcall : call.Answers answer)
  (settled : ∀ b ∈ w.form.fields.buckets, ∀ f, w.finding call b ≠ .raised f)

include hcall settled

/-- Going through names records the findings of all of them. -/
theorem runIn_failing (bs : List (Value × List Entry)) (hbs : ∀ b ∈ bs, b ∈ w.form.fields.buckets)
    {w₁ : World} (ground : w.SameGround w₁) :
    ∃ w₂, (failing call w.form.fields (.map w.readings) (Table.keys bs)).runIn w₁ =
        (.ok (failedNames (bs.map (w.treating call))), w₂) ∧
      w.Recorded w₁ (bs.map (w.treating call)) w₂ := by
  induction bs generalizing w₁ with
  | nil => exact ⟨w₁, rfl, .nil ground⟩
  | cons b rest ih =>
      obtain ⟨hb, hrest⟩ := List.forall_mem_cons.mp hbs
      obtain ⟨w₂, first, recorded⟩ := runIn_validateIn hcall ground hb (settled b hb)
      obtain ⟨w₃, later, recorded'⟩ := ih hrest recorded.ground
      refine ⟨w₃, ?_, recorded.append recorded'⟩
      rw [← Finding.outcome_eq_ok (settled b hb)] at first
      show (failing call w.form.fields (.map w.readings) (b.1 :: Table.keys rest)).runIn w₁ = _
      rw [runIn_failing_cons first, Finding.outcome_eq_ok (settled b hb)]
      simp only [runIn_map, later]
      rw [List.map_cons, failedNames_cons]
      rfl

/-- A pass gives the names whose findings do not pass, and records all findings. -/
theorem runIn_validate (hover : w.form.wholeOverride.isCallable = false) {w₁ : World}
    (ground : w.SameGround w₁) :
    ∃ w₂, (validate call).runIn w₁ =
        (.ok ⟨(failedNames (w.form.fields.buckets.map (w.treating call))).isEmpty,
          failedNames (w.form.fields.buckets.map (w.treating call))⟩, w₂) ∧
      w.Recorded w₁ (w.form.fields.buckets.map (w.treating call)) w₂ := by
  obtain ⟨w', reports, collected⟩ := runIn_values w₁
  have ground' : w.SameGround w' := World.sameGround_frame.trans ground reports.sameGround
  have hover' : w'.form.wholeOverride.isCallable = false := by
    have override : w'.form.wholeOverride = w.form.wholeOverride :=
      congrArg (·.2.2.wholeOverride) ground'
    rw [override, hover]
  obtain ⟨w₂, ran, recorded⟩ :=
    runIn_failing hcall settled w.form.fields.buckets (fun _ hb => hb) ground'
  refine ⟨w₂, ?_, recorded.of_reports reports⟩
  rw [validate, runIn_bind_ok collected, validateAll, runIn_bind_ok (runIn_form w'), hover',
    ground'.fields, ground.readings]
  exact runIn_bind_ok ran

/-- Validating names one after the other gives what each finding says, and records them all. -/
theorem runIn_validateField_each (bs : List (Value × List Entry))
    (hbs : ∀ b ∈ bs, b ∈ w.form.fields.buckets) {w₁ : World} (ground : w.SameGround w₁) :
    ∃ w₂, ((Table.keys bs).mapM (validateField call)).runIn w₁ =
        (.ok (bs.map fun b => (w.finding call b).passes), w₂) ∧
      w.Recorded w₁ (bs.map (w.treating call)) w₂ := by
  induction bs generalizing w₁ with
  | nil => exact ⟨w₁, rfl, .nil ground⟩
  | cons b rest ih =>
      obtain ⟨hb, hrest⟩ := List.forall_mem_cons.mp hbs
      obtain ⟨w₂, first, recorded⟩ := runIn_validateField hcall ground hb (settled b hb)
      obtain ⟨w₃, later, recorded'⟩ := ih hrest recorded.ground
      refine ⟨w₃, ?_, recorded.append recorded'⟩
      show ((b.1 :: Table.keys rest).mapM (validateField call)).runIn w₁ = _
      rw [List.mapM_cons, runIn_bind_ok first, runIn_bind_ok later]
      rfl

end Settled

/-! ## One pass, and one name after the other -/

/-- **Validating the names one by one, in any order, comes to the same as a pass.**  Each name is
valid exactly if the pass does not list it, and the same is found under every name of the errors
afterwards.  The pass lists names in the order of the form, and a further pass, after either, gives
the same verdict and leaves the errors as they are. -/
theorem validateField_each_agrees (hcall : call.Answers answer)
    (hover : w.form.wholeOverride.isCallable = false)
    (settled : ∀ b ∈ w.form.fields.buckets, ∀ f, w.finding call b ≠ .raised f)
    {names : List Value} (hnames : names.Perm w.form.fields.keys) :
    ∃ verdict valid w₁ w₂ w₃ w₄,
      (validate call).runIn w = (.ok verdict, w₁) ∧
      (names.mapM (validateField call)).runIn w = (.ok valid, w₂) ∧
      List.Forall₂ (fun name v => v = true ↔ name ∉ verdict.failed) names valid ∧
      (∀ name, w₂.form.errors.table.find? name = w₁.form.errors.table.find? name) ∧
      verdict.failed.Sublist w.form.fields.keys ∧
      (validate call).runIn w₁ = (.ok verdict, w₃) ∧
      w₃.form.errors.table = w₁.form.errors.table ∧
      (validate call).runIn w₂ = (.ok verdict, w₄) ∧
      w₄.form.errors.table = w₂.form.errors.table := by
  obtain ⟨bs, rfl, perm⟩ : Relation.Comp (· = List.map Prod.fst ·) List.Perm names
      w.form.fields.buckets := by
    rw [List.eq_map_comp_perm]
    exact hnames
  have start : w.SameGround w := World.sameGround_frame.refl w
  obtain ⟨w₁, passed, recorded₁⟩ := runIn_validate hcall settled hover start
  obtain ⟨w₂, each, recorded₂⟩ :=
    runIn_validateField_each hcall settled bs (fun _ hb => perm.subset hb) start
  obtain ⟨w₃, again₁, recorded₃⟩ := runIn_validate hcall settled hover recorded₁.ground
  obtain ⟨w₄, again₂, recorded₄⟩ := runIn_validate hcall settled hover recorded₂.ground
  have names : (w.form.fields.buckets.map (w.treating call)).map name = w.form.fields.keys := by
    rw [List.map_map]
    rfl
  have hkeys : ∀ t ∈ w.form.fields.buckets.map (w.treating call), t.name.isKey = true :=
    List.forall_mem_map.mpr w.form.fields.isKey
  have distinct := w.form.fields.distinct
  rw [Table.Distinct, ← FieldTable.keys, ← names] at distinct
  have found (sought : Value) :
      w₂.form.errors.table.find? sought = w₁.form.errors.table.find? sought := by
    rw [recorded₁.table, recorded₂.table]
    exact find?_foldl_record_perm hkeys distinct (perm.map _) _ sought
  -- Every finding is recorded in the first table, so that recording them again changes nothing.
  have kept {errors : Table Value}
      (h : ∀ sought, errors.find? sought = w₁.form.errors.table.find? sought) :
      (w.form.fields.buckets.map (w.treating call)).foldl record errors = errors := by
    refine foldl_record_eq_self fun t ht => ⟨w.form.errors.table.find? t.name, ?_⟩
    rw [h, recorded₁.table]
    exact find?_foldl_record hkeys distinct ht _
  refine ⟨_, _, w₁, w₂, w₃, w₄, passed, each, ?_, found, ?_, again₁, ?_, again₂, ?_⟩
  · rw [List.forall₂_map_left_iff, List.forall₂_map_right_iff, List.forall₂_same]
    intro b hb
    have listed := mem_failedNames_iff distinct (List.mem_map_of_mem (perm.subset hb))
    rw [← Bool.not_eq_false]
    exact not_congr listed.symm
  · rw [← names]
    exact failedNames_sublist _
  · rw [recorded₃.table, kept fun _ => rfl]
  · rw [recorded₄.table, kept found]

end Form

/-! ## A form with errors from before -/

namespace Session

/-- Scripts that make no request and answer by what they are called with. -/
def answering (answer : Nat → Arguments → Value) : Behaviour :=
  fun script _ args => .answer (answer script args)

theorem answering_answers (answer : Nat → Arguments → Value) (perform : Request → FormM Reply) :
    (callWith (answering answer) perform).Answers fun f args => .ok (answer f.script args) where
  answers f args w _ _ := ⟨(w.countCall f).noted (.call f.role args), ⟨rfl, rfl, rfl⟩, rfl⟩
  listens f args w _ :=
    ⟨answer f.script args, (w.countCall f).noted (.call f.role args), ⟨rfl, rfl, rfl⟩, rfl⟩

/-- Scripts that pass what counts, and say so of anything else. -/
abbrev judging : Behaviour := answering fun _ args => match args with
  | .value v _ => if v.truthy then .bool true else .str "missing"
  | _ => .null

/-- How functions that judge are called. -/
abbrev judge : Caller := callWith judging (perform judging nestingLimit)

/-- Four fields with a listener.  Two share the name `a`, a validator judges `b` and `c`, and there
are errors from before for `a` and `c`. -/
def jumbled : World :=
  let field (name : String) (validator : Hook) (value : Value) : Field :=
    { (default : Field) with name := .str name, validator := validator, value := value }
  let validator : Hook := .function ⟨.validator (.str "b"), 0, 0⟩
  let fields := (((FieldTable.empty.add (.str "a") ⟨0, none⟩).add (.str "a") ⟨1, none⟩).add
    (.str "b") ⟨2, none⟩).add (.str "c") ⟨3, none⟩
  let errors := (ErrorState.empty.record (.str "c") (.str "old")).record (.str "a") (.str "older")
  { World.initial ⟨.empty "standard", .empty "file"⟩
      { Form.ofOptions .default with
        fields := fields
        errors := (errors.subscribe ⟨.listener (.str "l"), 0, 1⟩).2 } with
    objects := [field "a" .none .null, field "a" .none .null, field "b" validator .null,
      field "c" validator (.int 1)]
    functions := 2 }

/-- The pass lists `a` and `b`, and the three names that are validated from the last to the first
come to the same. -/
theorem jumbled_agrees :
    [.str "c", .str "b", .str "a"].Perm jumbled.form.fields.keys ∧ ∃ w₁ w₂ w₃ w₄,
      (Form.validate judge).runIn jumbled = (.ok ⟨false, [.str "a", .str "b"]⟩, w₁) ∧
      ([.str "c", .str "b", .str "a"].mapM (Form.validateField judge)).runIn jumbled =
        (.ok [true, false, false], w₂) ∧
      (∀ name, w₂.form.errors.table.find? name = w₁.form.errors.table.find? name) ∧
      w₁.form.errors.table =
        [(.str "c", .bool false), (.str "a", .str "older"), (.str "b", .str "missing")] ∧
      (Form.validate judge).runIn w₁ = (.ok ⟨false, [.str "a", .str "b"]⟩, w₃) ∧
      w₃.form.errors.table = w₁.form.errors.table ∧
      (Form.validate judge).runIn w₂ = (.ok ⟨false, [.str "a", .str "b"]⟩, w₄) ∧
      w₄.form.errors.table = w₂.form.errors.table := by
  have findings : jumbled.form.fields.buckets.map (jumbled.finding judge) =
      [.shared, .checked (.str "missing"), .checked (.bool true)] := rfl
  have settled : ∀ b ∈ jumbled.form.fields.buckets, ∀ f, jumbled.finding judge b ≠ .raised f := by
    intro b hb f raised
    have mem := List.mem_map_of_mem (f := jumbled.finding judge) hb
    rw [findings, raised] at mem
    simp at mem
  have perm : [.str "c", .str "b", .str "a"].Perm jumbled.form.fields.keys :=
    List.reverse_perm jumbled.form.fields.keys
  obtain ⟨verdict, valid, w₁, w₂, w₃, w₄, passed, each, -, found, -, again₁, same₁, again₂, same₂⟩ :=
    Form.validateField_each_agrees (answering_answers _ _) (w := jumbled) rfl settled perm
  have listed : ((Form.validate judge).runIn jumbled).1 = .ok ⟨false, [.str "a", .str "b"]⟩ := rfl
  have table : ((Form.validate judge).runIn jumbled).2.form.errors.table =
      [(.str "c", .bool false), (.str "a", .str "older"), (.str "b", .str "missing")] := rfl
  have answers : (([.str "c", .str "b", .str "a"].mapM (Form.validateField judge)).runIn
      jumbled).1 = .ok [true, false, false] := rfl
  rw [passed] at listed table
  rw [each] at answers
  obtain rfl := Except.ok.inj listed
  obtain rfl := Except.ok.inj answers
  exact ⟨perm, w₁, w₂, w₃, w₄, passed, each, found, table, again₁, same₁, again₂, same₂⟩

end Session

end FormRules
