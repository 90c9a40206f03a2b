/-
# Quiet passes — what a pass finds where nothing interferes

Functions of the client are quiet if they return and do nothing but report.  A pass then leaves
everything but the recorded errors as it was (`World.SameGround`), and each treatment begins with
the fields, registries and options of the start.  In a form without overrides

    registrations     rules of the field               finding
    one field         none of them fails               `true`
    one field         a first one fails                its message, or `false` if it has none
    several fields                                     shared

`finding_of_one` is the first two lines.
-/
import FormRules.Proofs.Form.Recording
import FormRules.Proofs.Rule.Message

namespace FormRules

open FormM Treatment

/-! ## What a quiet pass leaves alone -/

namespace World

/-- What decides checks: the registries, the field objects, and the form but for its errors. -/
def ground (w : World) : Registries × List Field × Form :=
  (w.registries, w.objects, { w.form with errors := .empty })

/-- Everything that decides checks is as before. -/
def SameGround (w w' : World) : Prop := w'.ground = w.ground

theorem sameGround_frame : Frame (fun _ => True) SameGround where
  refl _ := rfl
  trans h h' := h'.trans h
  noted _ _ := rfl
  recording _ _ _ _ _ _ := rfl

theorem Reports.sameGround {w w' : World} : w.Reports w' → w.SameGround w' := by
  rintro ⟨_, rfl⟩
  rfl

theorem Reports.readings {w w' : World} (h : w.Reports w') : w'.readings = w.readings := by
  rw [World.readings, World.readings, h.form, h.reading]

namespace SameGround

variable {w w' : World} (h : w.SameGround w')

include h

theorem registries : w'.registries = w.registries := congrArg (·.1) h

theorem field : w'.field = w.field := by
  have objects : w'.objects = w.objects := congrArg (·.2.1) h
  funext id
  rw [World.field, World.field, objects]

theorem fields : w'.form.fields = w.form.fields := congrArg (·.2.2.fields) h

theorem options : w'.form.options = w.form.options := congrArg (·.2.2.options) h

theorem defaultHelp : w'.form.defaultHelp = w.form.defaultHelp := congrArg (·.2.2.defaultHelp) h

theorem tiers : w'.form.tiers = w.form.tiers := congrArg (·.2.2.tiers) h

theorem setup : w'.form.setup = w.form.setup := congrArg (·.2.2.setup) h

end SameGround

end World

/-- Functions that return and do nothing but report. -/
def Caller.Quiet (call : Caller) : Prop :=
  ∀ f args w, ∃ v w', w.Reports w' ∧ (call f args).runIn w = (.ok v, w')

namespace Caller.Quiet

variable {call : Caller} (h : call.Quiet)

include h

theorem sameGround (f : Callback) (args : Arguments) : Keeps World.SameGround (call f args) := by
  intro w
  obtain ⟨v, w', reports, ran⟩ := h f args w
  rw [ran]
  exact reports.sameGround

theorem benign : call.Benign where
  returns f args _ w := by
    obtain ⟨v, w', -, ran⟩ := h f args w
    exact ⟨v, w', ran⟩
  keepsSetup f args _ w := (h.sameGround f args w).setup

theorem discreet : call.Discreet := by
  intro f args _ w
  obtain ⟨v, w', reports, ran⟩ := h f args w
  rw [ran, World.SameErrors, reports.form]

end Caller.Quiet

namespace Treatment

variable {call : Caller} {context : Value} {R : World → World → Prop}
  (hR : Frame (fun _ => True) R)
  (hcall : ∀ f args, ¬ args.IsOutcome → Keeps R (call f args))

include hR hcall

theorem Holds.keeps {t : Treatment} (h : t.Holds call context) : R t.before t.after := by
  cases h with
  | shared => exact hR.noted _ _
  | @checked name value result stored e check w w₁ w₂ first asked ran recorded =>
      have checks := Form.runCheck_keeps hR hcall e.field name value context check w
      have records :=
        Form.setError_keeps hR hcall name trivial (!result.isTrue) (Form.messageOf result) w₁
      rw [ran] at checks
      rw [recorded] at records
      exact hR.trans checks records
  | @raised name value e chain f w w₁ first asked ran =>
      have checks := Form.runChain_keeps hR.reporting e.field chain value w
      rwa [ran] at checks

/-- Linked treatments all begin with what the first one began with. -/
theorem Linked.keeps {w w' : World} {ts : List Treatment} (h : Linked w ts w')
    (hts : ∀ t ∈ ts, t.Holds call context) : (∀ t ∈ ts, R w t.before) ∧ R w w' := by
  induction h with
  | nil => exact ⟨by simp, hR.refl _⟩
  | @cons t ts w' rest ih =>
      obtain ⟨here, later⟩ := List.forall_mem_cons.mp hts
      obtain ⟨begins, ends⟩ := ih later
      have step := here.keeps hR hcall
      refine ⟨List.forall_mem_cons.mpr ⟨hR.refl _, fun t' ht' => ?_⟩, hR.trans step ends⟩
      exact hR.trans step (begins t' ht')

end Treatment

/-- Quiet treatments leave the ground as it was. -/
theorem Treatment.Linked.sameGround {call : Caller} (hcall : call.Quiet) {context : Value}
    {w w' : World} {ts : List Treatment} (linked : Linked w ts w')
    (held : ∀ t ∈ ts, t.Holds call context) :
    (∀ t ∈ ts, w.SameGround t.before) ∧ w.SameGround w' :=
  linked.keeps World.sameGround_frame (fun f args _ => hcall.sameGround f args) held

/-! ## What a pass finds without overrides -/

namespace Form

/-- Nothing overrides the rules of the fields. -/
structure IsPlain (f : Form) : Prop where
  tiers : ∃ hook, hook.isCallable = false ∧
    f.tiers = [.formOverride hook, .fieldOverride, .rules, .always]
  wholeOverride : f.wholeOverride.isCallable = false

theorem IsPlain.decisive {f : Form} (h : f.IsPlain) : f.Decisive := by
  obtain ⟨hook, -, tiers⟩ := h.tiers
  simp [Decisive, tiers]

/-- In a plain form a field without a validator is decided by its rules, if it has any. -/
theorem IsPlain.firstCheck? {f : Form} (h : f.IsPlain) {field : Field}
    (hfield : field.validator.isCallable = false) (chain : Option Chain) :
    firstCheck? field chain f.tiers = some (match chain with
      | some chain => .rules chain
      | none => .always) := by
  obtain ⟨hook, hhook, tiers⟩ := h.tiers
  rw [tiers]
  cases chain <;> simp [Form.firstCheck?, List.findSome?, checkOf?, hhook, hfield]

end Form

/-- What the rules of a registration answer for a value: the first message that is reported, or
`true`. -/
def World.answer (w : World) (e : Entry) (value : Value) : Value :=
  match e.chain with
  | some chain =>
      (Chain.reported? (w.registries.get chain.shelf) (w.field e.field).errorHelp
        w.form.defaultHelp value chain.rules).getD (.bool true)
  | none => .bool true

/-- The rules of a registration can be evaluated on a value. -/
def World.Evaluates (w : World) (e : Entry) (value : Value) : Prop :=
  ∀ chain, e.chain = some chain → chain.Runs w.registries value

namespace World.SameGround

variable {w w' : World} (h : w.SameGround w')

include h

theorem answer : w'.answer = w.answer := by
  funext e value
  unfold World.answer
  rw [h.registries, h.field, h.defaultHelp]

theorem evaluates : w'.Evaluates = w.Evaluates := by
  funext e value
  rw [World.Evaluates, World.Evaluates, h.registries]

end World.SameGround

namespace Treatment

variable {call : Caller} {name value context : Value} {e : Entry} {w : World}

/-- Checking by rules answers and reports. -/
theorem runIn_runCheck_rules (call : Caller) (name context : Value) (runs : w.Evaluates e value) :
    ∃ w', w.Reports w' ∧ (Form.runCheck call e.field name value context (match e.chain with
      | some chain => .rules chain
      | none => .always)).runIn w = (.ok (w.answer e value), w') := by
  unfold World.answer
  cases chain : e.chain with
  | none => exact ⟨w, .refl w, rfl⟩
  | some c =>
      obtain ⟨w', reports, ran⟩ := Form.runIn_runChain e.field c value w
      refine ⟨w', reports, ?_⟩
      rw [Form.runCheck, ran, Chain.run_eq (runs c chain)]

/-- The finding for a name with one registration is the result of its first check. -/
theorem Holds.finding_of_runCheck {t : Treatment} (h : t.Holds call context)
    (registration : t.registration = (name, [e])) {check : Check}
    (decided : Form.firstCheck? (t.before.field e.field) e.chain t.before.form.tiers = some check)
    (asked : context.entry name = .ok value) {result : Value} {w' : World}
    (ran : (Form.runCheck call e.field name value context check).runIn t.before =
      (.ok result, w')) : t.finding = .checked result := by
  cases h with
  | shared several =>
      obtain ⟨rfl, rfl⟩ := Prod.mk.inj registration
      exact absurd several (Nat.not_le_of_lt Nat.one_lt_two)
  | checked first asked' ran' =>
      obtain ⟨rfl, entries⟩ := Prod.mk.inj registration
      obtain ⟨rfl, -⟩ := List.cons.inj entries
      obtain rfl := Option.some.inj (decided.symm.trans first)
      obtain rfl := Except.ok.inj (asked.symm.trans asked')
      have same := congrArg Prod.fst (ran'.symm.trans ran)
      exact congrArg Finding.checked (Except.ok.inj same)
  | raised first asked' ran' =>
      obtain ⟨rfl, entries⟩ := Prod.mk.inj registration
      obtain ⟨rfl, -⟩ := List.cons.inj entries
      obtain rfl := Option.some.inj (decided.symm.trans first)
      obtain rfl := Except.ok.inj (asked.symm.trans asked')
      cases congrArg Prod.fst (ran'.symm.trans ran)

/-- The treatment of a name with one registration finds what its rules answer. -/
theorem Holds.finding_of_one {t : Treatment} (h : t.Holds call context)
    (registration : t.registration = (name, [e])) (ground : w.SameGround t.before)
    (plain : w.form.IsPlain) (hfield : (w.field e.field).validator.isCallable = false)
    (asked : context.entry name = .ok value) (runs : w.Evaluates e value) :
    t.finding = .checked (w.answer e value) := by
  have decided := plain.firstCheck? hfield e.chain
  rw [← ground.field, ← ground.tiers] at decided
  rw [← ground.evaluates] at runs
  obtain ⟨w', -, ran⟩ := runIn_runCheck_rules call name context runs
  rw [ground.answer] at ran
  exact h.finding_of_runCheck registration decided asked ran

/-- The treatment of a name with several registrations finds that. -/
theorem Holds.finding_of_several {t : Treatment} (h : t.Holds call context)
    (several : t.entries.length ≠ 1) : t.finding = .shared := by
  cases h with
  | shared => rfl
  | checked => exact absurd rfl several
  | raised => exact absurd rfl several

end Treatment

/-! ## The whole pass -/

theorem Value.entry_map {name : Value} (hname : name.isKey = true) (entries : Table Value) :
    (Value.map entries).entry name = .ok ((entries.find? name).getD .null) :=
  if_pos hname

/-- The reading under a name with one registration is what its field holds. -/
theorem World.entry_readings {w : World} {name : Value} {e : Entry}
    (hb : (name, [e]) ∈ w.form.fields.buckets) :
    (Value.map w.readings).entry name = .ok (w.field e.field).current := by
  rw [Value.entry_map (w.form.fields.isKey _ hb), find?_readings hb]
  rfl

/-- What a quiet pass finds for the registrations of a name. -/
def World.findingOf (w : World) : List Entry → Finding
  | [e] => .checked (w.answer e (w.field e.field).current)
  | _ => .shared

/-- What is recorded after a finding, if `before` was recorded then. -/
def Finding.stored (before : Value) : Finding → Value
  | .checked result => entryFor result
  | _ => before

/-- The fields of a form are decided by their rules, which can be evaluated on the values that the
fields have. -/
structure World.IsRuled (w : World) : Prop where
  plain : w.form.IsPlain
  noValidator : ∀ b ∈ w.form.fields.buckets, ∀ e, b.2 = [e] →
    (w.field e.field).validator.isCallable = false
  evaluates : ∀ b ∈ w.form.fields.buckets, ∀ e, b.2 = [e] →
    w.Evaluates e (w.field e.field).current

namespace World.SameGround

variable {w w' : World} (h : w.SameGround w')

include h

theorem findingOf : w'.findingOf = w.findingOf := by
  funext entries
  unfold World.findingOf
  rw [h.answer, h.field]

theorem isPlain (plain : w.form.IsPlain) : w'.form.IsPlain := by
  have override : w'.form.wholeOverride = w.form.wholeOverride :=
    congrArg (·.2.2.wholeOverride) h
  exact ⟨h.tiers ▸ plain.tiers, override ▸ plain.wholeOverride⟩

theorem isRuled (ruled : w.IsRuled) : w'.IsRuled := by
  refine ⟨h.isPlain ruled.plain, ?_, ?_⟩
  · rw [h.fields, h.field]
    exact ruled.noValidator
  · rw [h.fields, h.field, h.evaluates]
    exact ruled.evaluates

end World.SameGround

namespace Form

variable {call : Caller} {w : World}

/-- Each treatment of such a pass finds what is expected of the registrations. -/
theorem finding_of_mem (hcall : call.Quiet) (ruled : w.IsRuled) {ts : List Treatment} {w' : World}
    (linked : Linked w ts w') (held : ∀ t ∈ ts, t.Holds call (.map w.readings))
    {t : Treatment} (ht : t ∈ ts) (hb : t.registration ∈ w.form.fields.buckets) :
    t.finding = w.findingOf t.entries := by
  have ground : w.SameGround t.before := (linked.sameGround hcall held).1 t ht
  rcases FieldTable.one_or_more hb with ⟨e, one⟩ | ⟨e, e', more, many⟩
  · have entries : t.entries = [e] := one
    have registration : t.registration = (t.name, [e]) := Prod.ext rfl entries
    have asked := World.entry_readings (registration ▸ hb)
    rw [entries]
    exact (held t ht).finding_of_one registration ground ruled.plain
      (ruled.noValidator _ hb e one) asked (ruled.evaluates _ hb e one)
  · have entries : t.entries = e :: e' :: more := many
    rw [(held t ht).finding_of_several (by simp [entries]), entries]
    rfl

/-- **A quiet pass over fields that are decided by their rules** gives a verdict.  The names that
fail are those whose one field has a failing rule and those that several fields share, in order. -/
theorem validateAll_quiet (hcall : call.Quiet) (ruled : w.IsRuled) :
    ∃ verdict w', (validateAll call (.map w.readings)).runIn w = (.ok verdict, w') ∧
      w.SameGround w' ∧ verdict.isValid = verdict.failed.isEmpty ∧
      verdict.failed =
        Table.keys (w.form.fields.buckets.filter fun b => !(w.findingOf b.2).passes) ∧
      ∀ b ∈ w.form.fields.buckets,
        w'.errorOf b.1 = (w.findingOf b.2).stored (w.errorOf b.1) := by
  have mapping : (Value.map w.readings).IsMapping := ⟨w.readings, rfl⟩
  obtain ⟨ts, outcome, w', ran, linked, held, accounts⟩ :=
    validateAll_treats hcall.benign mapping ruled.plain.decisive ruled.plain.wholeOverride
  have found (t : Treatment) (ht : t ∈ ts) (hb : t.registration ∈ w.form.fields.buckets) :
      t.finding = w.findingOf t.entries := finding_of_mem hcall ruled linked held ht hb
  cases outcome with
  | error f =>
      -- No treatment of these registrations finds that a predicate has failed.
      have broken : BrokenPass w.form.fields.buckets ts f := accounts
      obtain ⟨earlier, last, rfl, raised, -⟩ := broken.raised
      have mem : last ∈ earlier ++ [last] := List.mem_append_right _ (List.mem_singleton_self _)
      have expected := found last mem (broken.begun.subset (List.mem_map_of_mem mem))
      rw [raised] at expected
      unfold World.findingOf at expected
      split at expected <;> cases expected
  | ok failed =>
      have pass := wholePass_of_accounts held accounts
      have mem (t : Treatment) (ht : t ∈ ts) : t.registration ∈ w.form.fields.buckets :=
        pass.registrations ▸ List.mem_map_of_mem ht
      have ground : w.SameGround w' := (linked.sameGround hcall held).2
      refine ⟨_, w', ran, ground, rfl, ?_, fun b hb => ?_⟩
      · have same : ts.filter (fun t => !t.finding.passes) =
            ts.filter ((fun b => !(w.findingOf b.2).passes) ∘ registration) :=
          List.filter_congr fun t ht => by rw [found t ht (mem t ht)]; rfl
        rw [pass.failed, failedNames, same, Table.keys, ← pass.registrations, List.filter_map,
          List.map_map]
        rfl
      · obtain ⟨t, ht, rfl, -, -, recorded⟩ :=
          pass.exists_treatment hcall.discreet linked held hb
        have same : t.finding = w.findingOf t.registration.2 := found t ht hb
        rw [recorded, ← same]
        unfold Treatment.recorded Finding.stored World.errorOf
        cases t.finding <;> rfl

end Form

end FormRules
