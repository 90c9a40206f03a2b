/-
# Passes — a whole pass decides the registrations of its start

A pass over a form without an override of whole passes goes through the names that are registered
when it begins.  The functions that it calls may register, unregister and replace fields on the
way, so the registrations of the form change under it.  What it does is said by *treatments*, one
for each name: the registrations that the name is taken to have, what came of them, and the worlds
before and after.

    registrations        finding        comes from
    several fields       shared         a warning, and no check
    one field            checked        the first tier that applies; its result is recorded
    one field            raised         the compiled rules, when a predicate fails

Treatments are linked when each begins where the one before ended.  The main statement,
`validateAll_isolated`, says that a pass is a linked list of treatments of exactly the
registrations of its start, in their order, and that its verdict is read off their findings,
whatever the functions of the client do to the form meanwhile.
-/
import FormRules.Proofs.Session.Client

namespace FormRules

open FormM

/-! ## Checks -/

/-- An override that decides a field can be called. -/
def Check.IsCallable : Check → Prop
  | .formOverride hook | .fieldOverride hook => hook.isCallable = true
  | .rules _ | .always => True

namespace Form

variable {field : Field} {chain : Option Chain} {tiers : List Tier} {check : Check}

theorem exists_firstCheck? (h : Tier.always ∈ tiers) (field : Field) (chain : Option Chain) :
    ∃ check, firstCheck? field chain tiers = some check :=
  Option.isSome_iff_exists.mp (List.findSome?_isSome_iff.mpr ⟨.always, h, rfl⟩)

/-- A tier with an override applies only if that can be called. -/
theorem isCallable_of_firstCheck? (h : firstCheck? field chain tiers = some check) :
    check.IsCallable := by
  obtain ⟨tier, -, applies⟩ := List.exists_of_findSome?_eq_some h
  cases tier with
  | formOverride hook =>
      by_cases callable : hook.isCallable = true
      · obtain rfl : Check.formOverride hook = check := by simpa [checkOf?, callable] using applies
        exact callable
      · simp [checkOf?, callable] at applies
  | fieldOverride =>
      by_cases callable : field.validator.isCallable = true
      · obtain rfl : Check.fieldOverride field.validator = check := by
          simpa [checkOf?, callable] using applies
        exact callable
      · simp [checkOf?, callable] at applies
  | rules =>
      obtain ⟨c, -, rfl⟩ := Option.map_eq_some_iff.mp applies
      exact trivial
  | always =>
      obtain rfl : Check.always = check := by simpa [checkOf?] using applies
      exact trivial

end Form

/-- A value that can be asked for the entry of a name. -/
def Value.IsMapping (v : Value) : Prop := ∃ entries, v.opened = .map entries

theorem Value.IsMapping.entry {v name : Value} (h : v.IsMapping) (hname : name.isKey = true) :
    ∃ value, v.entry name = .ok value := by
  obtain ⟨entries, opened⟩ := h
  exact ⟨_, by rw [Value.entry, opened]; exact if_pos hname⟩

/-! ## Treatments -/

/-- What came of a name in a pass. -/
inductive Finding where
  | shared
  | checked (result : Value)
  | raised (f : Failure)

namespace Finding

/-- Only the result `true` of a check passes. -/
def passes : Finding → Bool
  | checked result => result.isTrue
  | _ => false

/-- What a pass goes on with. -/
def outcome : Finding → Outcome Bool
  | raised f => .error f
  | finding => .ok finding.passes

theorem outcome_eq_ok {finding : Finding} (h : ∀ f, finding ≠ raised f) :
    finding.outcome = .ok finding.passes := by
  cases finding with
  | raised f => exact absurd rfl (h f)
  | shared => rfl
  | checked result => rfl

end Finding

/-- How a pass treated a name: the registrations that it took the name to have, what came of them,
and the worlds in which that began and ended. -/
structure Treatment where
  name : Value
  entries : List Entry
  finding : Finding
  before : World
  after : World

namespace Treatment

def registration (t : Treatment) : Value × List Entry := (t.name, t.entries)

/-- A treatment that is made in a pass with the values `context`. -/
inductive Holds (call : Caller) (context : Value) : Treatment → Prop
  | shared {name : Value} {entries : List Entry} {w : World} (several : 2 ≤ entries.length) :
      Holds call context ⟨name, entries, .shared, w,
        w.noted (.log .warning
          (Form.sharedName name entries.length ++ "; treating it as invalid"))⟩
  | checked {name value result stored : Value} {e : Entry} {check : Check} {w w₁ w₂ : World}
      (first : Form.firstCheck? (w.field e.field) e.chain w.form.tiers = some check)
      (asked : context.entry name = .ok value)
      (ran : (Form.runCheck call e.field name value context check).runIn w = (.ok result, w₁))
      (recorded : (Form.setError call name (!result.isTrue) (Form.messageOf result)).runIn w₁ =
        (.ok stored, w₂)) :
      Holds call context ⟨name, [e], .checked result, w, w₂⟩
  | raised {name value : Value} {e : Entry} {chain : Chain} {f : Failure} {w w₁ : World}
      (first : Form.firstCheck? (w.field e.field) e.chain w.form.tiers = some (.rules chain))
      (asked : context.entry name = .ok value)
      (ran : (Form.runChain e.field chain value).runIn w = (.error f, w₁)) :
      Holds call context ⟨name, [e], .raised f, w, w₁⟩

/-- A shared name has no check, so it fails. -/
theorem Holds.fails_of_shared {call : Caller} {context : Value} {t : Treatment}
    (h : t.Holds call context) (several : 2 ≤ t.entries.length) : t.finding.passes = false := by
  cases h with
  | shared => rfl
  | checked => exact absurd several (Nat.not_le_of_lt Nat.one_lt_two)
  | raised => rfl

/-- Treatments one after the other, each beginning in the world that the one before has left. -/
inductive Linked : World → List Treatment → World → Prop
  | nil {w : World} : Linked w [] w
  | cons {t : Treatment} {ts : List Treatment} {w : World} (rest : Linked t.after ts w) :
      Linked t.before (t :: ts) w

/-- The names that fail, in order. -/
def failedNames (ts : List Treatment) : List Value :=
  (ts.filter fun t => !t.finding.passes).map name

theorem failedNames_cons (t : Treatment) (ts : List Treatment) :
    failedNames (t :: ts) =
      if t.finding.passes then failedNames ts else t.name :: failedNames ts := by
  cases h : t.finding.passes <;> simp [failedNames, h]

theorem failedNames_sublist (ts : List Treatment) : (failedNames ts).Sublist (ts.map name) :=
  List.filter_sublist.map _

theorem mem_failedNames {ts : List Treatment} {t : Treatment} (ht : t ∈ ts)
    (h : t.finding.passes = false) : t.name ∈ failedNames ts :=
  List.mem_map_of_mem (List.mem_filter.mpr ⟨ht, by rw [h]; rfl⟩)

end Treatment

open Treatment

/-- Treatments that make up a whole pass over registrations, with its verdict. -/
structure WholePass (fields : FieldTable) (ts : List Treatment) (verdict : Verdict) : Prop where
  registrations : ts.map registration = fields.buckets
  noneRaised : ∀ t ∈ ts, ∀ f, t.finding ≠ .raised f
  failed : verdict.failed = failedNames ts
  sublist : verdict.failed.Sublist fields.keys
  distinct : verdict.failed.Pairwise fun a b => a.same b = false
  shared : ∀ b ∈ fields.buckets, 2 ≤ b.2.length → b.1 ∈ verdict.failed
  isValid : verdict.isValid = true ↔ verdict.failed = []

/-- Treatments of the first registrations, in the last of which compiled rules failed. -/
structure BrokenPass (registrations : List (Value × List Entry)) (ts : List Treatment)
    (f : Failure) : Prop where
  begun : ts.map registration <+: registrations
  raised : ∃ earlier last, ts = earlier ++ [last] ∧ last.finding = .raised f ∧
    ∀ t ∈ earlier, ∀ f', t.finding ≠ .raised f'

theorem BrokenPass.cons {registrations : List (Value × List Entry)} {ts : List Treatment}
    {f : Failure} (h : BrokenPass registrations ts f) {t : Treatment}
    (ht : ∀ f', t.finding ≠ .raised f') :
    BrokenPass (t.registration :: registrations) (t :: ts) f := by
  obtain ⟨earlier, last, rfl, hlast, hearlier⟩ := h.raised
  refine ⟨?_, t :: earlier, last, rfl, hlast, ?_⟩
  · exact (List.prefix_cons_inj _).mpr h.begun
  · intro t' ht'
    rcases List.mem_cons.mp ht' with rfl | ht'
    · exact ht
    · exact hearlier t' ht'

namespace Form

variable {call : Caller} {context : Value}

/-! ## One name of a pass -/

/-- A check gives a result, unless it evaluates compiled rules and a predicate fails. -/
theorem runCheck_cases (hcall : call.Benign) {e : Entry} {check : Check} {w : World}
    (first : firstCheck? (w.field e.field) e.chain w.form.tiers = some check)
    (name value context : Value) :
    (∃ result w₁, (runCheck call e.field name value context check).runIn w = (.ok result, w₁)) ∨
      ∃ chain f w₁, check = .rules chain ∧
        (runChain e.field chain value).runIn w = (.error f, w₁) := by
  cases check with
  | formOverride hook =>
      exact .inl (callHook_completes hcall.returns (.field name value context) id
        (isCallable_of_firstCheck? first) w)
  | fieldOverride hook =>
      exact .inl (callHook_completes hcall.returns (.value value context) id
        (isCallable_of_firstCheck? first) w)
  | rules chain =>
      rcases h : (runChain e.field chain value).runIn w with ⟨f | result, w₁⟩
      · exact .inr ⟨chain, f, w₁, rfl, h⟩
      · exact .inl ⟨result, w₁, h⟩
  | always => exact .inl ⟨.bool true, w, rfl⟩

/-- Deciding a registered field is one treatment of its registration. -/
theorem validateEntry_treats (hcall : call.Benign) (hcontext : context.IsMapping) {name : Value}
    (hname : name.isKey = true) (e : Entry) {w : World} (htiers : w.form.Decisive) :
    ∃ t : Treatment, t.Holds call context ∧ t.registration = (name, [e]) ∧ t.before = w ∧
      (validateEntry call name context e).runIn w = (t.finding.outcome, t.after) := by
  obtain ⟨check, first⟩ := exists_firstCheck? htiers (w.field e.field) e.chain
  obtain ⟨value, asked⟩ := hcontext.entry hname
  have begun : (validateEntry call name context e).runIn w = _ := runIn_validateEntry first asked
  rcases runCheck_cases hcall first name value context with
    ⟨result, w₁, ran⟩ | ⟨chain, f, w₁, rfl, ran⟩
  · obtain ⟨stored, w₂, recorded⟩ :=
      setError_completes hcall.returns hname (errorValue_messageOf result) w₁
    refine ⟨_, .checked first asked ran recorded, rfl, rfl, ?_⟩
    rw [begun, runIn_bind_ok ran, runIn_bind_ok recorded]
    rfl
  · refine ⟨_, .raised first asked ran, rfl, rfl, ?_⟩
    rw [begun]
    exact runIn_bind_error ran

/-- A pass treats each registration as it found it in the table that it was given. -/
theorem validateIn_treats (hcall : call.Benign) (hcontext : context.IsMapping)
    {fields : FieldTable} {b : Value × List Entry} (hb : b ∈ fields.buckets) {w : World}
    (htiers : w.form.Decisive) :
    ∃ t : Treatment, t.Holds call context ∧ t.registration = b ∧ t.before = w ∧
      (validateIn call fields b.1 context).runIn w = (t.finding.outcome, t.after) := by
  have found := FieldTable.entry_of_mem hb
  obtain ⟨name, entries⟩ := b
  rcases FieldTable.one_or_more hb with ⟨e, one⟩ | ⟨e, e', more, many⟩
  · obtain rfl := one
    rw [validateIn, found]
    exact validateEntry_treats hcall hcontext (fields.isKey _ hb) e htiers
  · obtain rfl := many
    have several : 2 ≤ (e :: e' :: more).length := Nat.le_add_left 2 more.length
    refine ⟨_, .shared several, rfl, rfl, ?_⟩
    rw [validateIn, found]
    rfl

/-! ## The whole pass -/

/-- The first name decides whether a pass goes on, and whether it is among those that fail. -/
theorem runIn_failing_cons {fields : FieldTable} {name : Value} {finding : Finding} {w w' : World}
    (h : (validateIn call fields name context).runIn w = (finding.outcome, w'))
    (names : List Value) :
    (failing call fields context (name :: names)).runIn w = match finding.outcome with
      | .ok valid => ((fun later => if valid then later else name :: later) <$>
          failing call fields context names).runIn w'
      | .error f => (.error f, w') := by
  rw [failing, runIn_bind, h]
  cases finding.outcome <;> simp

/-- The treatments account for an outcome of going through registrations. -/
def Accounts (bs : List (Value × List Entry)) (ts : List Treatment) :
    Outcome (List Value) → Prop
  | .ok failed =>
      failed = failedNames ts ∧ ts.map registration = bs ∧ ∀ t ∈ ts, ∀ f, t.finding ≠ .raised f
  | .error f => BrokenPass bs ts f

/-- Going through registrations gives linked treatments of them, up to one that fails.  The tiers
stay as they are, so that the treatment of each name leaves a decisive form to the next. -/
theorem failing_treats (hcall : call.Benign) (hcontext : context.IsMapping) {fields : FieldTable}
    (bs : List (Value × List Entry)) (hbs : ∀ b ∈ bs, b ∈ fields.buckets) {w : World}
    (htiers : w.form.Decisive) :
    ∃ ts outcome w', (failing call fields context (Table.keys bs)).runIn w = (outcome, w') ∧
      Linked w ts w' ∧ (∀ t ∈ ts, t.Holds call context) ∧ Accounts bs ts outcome := by
  induction bs generalizing w with
  | nil => exact ⟨[], .ok [], w, rfl, .nil, by simp, rfl, rfl, by simp⟩
  | cons b rest ih =>
      obtain ⟨t, holds, rfl, rfl, ran⟩ :=
        validateIn_treats hcall hcontext (hbs b List.mem_cons_self) htiers
      have onward := runIn_failing_cons ran (Table.keys rest)
      by_cases raised : ∃ f, t.finding = .raised f
      · obtain ⟨f, raised⟩ := raised
        rw [raised] at onward
        have broken : BrokenPass (t.registration :: rest) [t] f :=
          ⟨⟨rest, rfl⟩, [], t, rfl, raised, by simp⟩
        exact ⟨[t], .error f, t.after, onward, .cons .nil, by simpa using holds, broken⟩
      · have noneRaised : ∀ f, t.finding ≠ .raised f := fun f h => raised ⟨f, h⟩
        rw [Finding.outcome_eq_ok noneRaised] at onward ran
        have htiers' : t.after.form.Decisive := by
          have kept := validateIn_keeps World.sameSetup_frame hcall.keepsSetup fields
            (fun _ _ => trivial) t.registration.1 context t.before
          rw [ran] at kept
          rw [Decisive, tiers_of_setup kept]
          exact htiers
        obtain ⟨ts, outcome, w', later, linked, all, accounts⟩ :=
          ih (fun b hb => hbs b (List.mem_cons_of_mem _ hb)) htiers'
        have held : ∀ t' ∈ t :: ts, t'.Holds call context := by simpa using ⟨holds, all⟩
        simp only [runIn_map, later] at onward
        cases outcome with
        | error f =>
            exact ⟨t :: ts, .error f, w', onward, .cons linked, held, accounts.cons noneRaised⟩
        | ok failed =>
            obtain ⟨rfl, regs, returned⟩ := accounts
            refine ⟨t :: ts, .ok (failedNames (t :: ts)), w', ?_, .cons linked, held, rfl, ?_, ?_⟩
            · rw [failedNames_cons]
              exact onward
            · rw [List.map_cons, regs]
            · simpa using ⟨noneRaised, returned⟩

/-- The verdict on treatments of all registrations of a table. -/
theorem wholePass_of_accounts {fields : FieldTable} {ts : List Treatment}
    (hts : ∀ t ∈ ts, t.Holds call context) {failed : List Value}
    (h : Accounts fields.buckets ts (.ok failed)) :
    WholePass fields ts ⟨failed.isEmpty, failed⟩ := by
  obtain ⟨rfl, regs, returned⟩ := h
  have names : ts.map name = fields.keys := by
    rw [FieldTable.keys, ← regs]
    simp [Table.keys, registration]
  have sub : (failedNames ts).Sublist fields.keys := names ▸ failedNames_sublist ts
  refine ⟨regs, returned, rfl, sub, List.Pairwise.sublist sub fields.distinct, ?_, ?_⟩
  · intro b hb several
    obtain ⟨t, ht, rfl⟩ := List.mem_map.mp (regs ▸ hb)
    exact mem_failedNames ht ((hts t ht).fails_of_shared several)
  · exact List.isEmpty_iff

/-- A pass without an override of whole passes goes through the registrations of its start. -/
theorem validateAll_treats (hcall : call.Benign) (hcontext : context.IsMapping) {w : World}
    (htiers : w.form.Decisive) (hover : w.form.wholeOverride.isCallable = false) :
    ∃ ts outcome w', (validateAll call context).runIn w =
        (outcome.map fun failed => ⟨failed.isEmpty, failed⟩, w') ∧
      Linked w ts w' ∧ (∀ t ∈ ts, t.Holds call context) ∧
      Accounts w.form.fields.buckets ts outcome := by
  obtain ⟨ts, outcome, w', ran, linked, held, accounts⟩ :=
    failing_treats hcall hcontext w.form.fields.buckets (fun _ hb => hb) htiers
  refine ⟨ts, outcome, w', ?_, linked, held, accounts⟩
  have begun : (validateAll call context).runIn w =
      ((fun failed => (⟨failed.isEmpty, failed⟩ : Verdict)) <$>
        failing call w.form.fields context w.form.fields.keys).runIn w := by
    simp [validateAll, runIn_bind, hover]
  rw [begun, FieldTable.keys, runIn_map, ran]

/-- **A pass is isolated.**  Whatever the functions of the client do to fields, values and
registrations while they run, a pass treats the registrations of its start, each once and in their
order, and its verdict is that of their checks; it ends early only where a predicate fails. -/
theorem validateAll_isolated (hcall : call.Benign) (hcontext : context.IsMapping) {w : World}
    (htiers : w.form.Decisive) (hover : w.form.wholeOverride.isCallable = false) :
    ∃ ts outcome w', (validateAll call context).runIn w = (outcome, w') ∧ Linked w ts w' ∧
      (∀ t ∈ ts, t.Holds call context) ∧
      match outcome with
      | .ok verdict => WholePass w.form.fields ts verdict
      | .error f => BrokenPass w.form.fields.buckets ts f := by
  obtain ⟨ts, outcome, w', ran, linked, held, accounts⟩ :=
    validateAll_treats hcall hcontext htiers hover
  refine ⟨ts, _, w', ran, linked, held, ?_⟩
  cases outcome with
  | error f => exact accounts
  | ok failed => exact wholePass_of_accounts held accounts

end Form

/-! ## A pass under a function that meddles -/

namespace Session

/-- A function that unregisters the field `b`, registers another field `c`, and passes. -/
def meddling : Behaviour := fun _ _ _ =>
  .request (.unregister (.named (.str "b"))) fun _ =>
    .request (.register "twin" (some { (default : FieldSource) with name := .str "c" })) fun _ =>
      .answer (.bool true)

theorem meddling_orderly : meddling.Orderly where
  requests _ _ _ := ⟨trivial, fun _ => ⟨trivial, fun _ => trivial⟩⟩
  answers _ _ _ _ := fun _ _ => trivial

/-- How functions that meddle are called. -/
abbrev meddler : Caller := callWith meddling (perform meddling 1)

/-- Three fields.  The validator of `a` meddles, that of `b` does not pass, and `c` has none. -/
def meddled : World :=
  let field (name : String) (validator : Hook) : Field :=
    { (default : Field) with name := .str name, validator := validator }
  let fields := ((FieldTable.empty.add (.str "a") ⟨0, none⟩).add (.str "b") ⟨1, none⟩).add
    (.str "c") ⟨2, none⟩
  { World.initial ⟨.empty "standard", .empty "file"⟩
      { Form.ofOptions .default with fields := fields } with
    objects := [field "a" (.function ⟨.validator (.str "a"), 0, 0⟩), field "b" .ignore,
      field "c" .none]
    functions := 1 }

/-- The pass decides `b` and `c` as they were, although `b` is gone when its turn comes and `c` is
shared by then. -/
theorem meddled_isolated :
    ∃ ts w', (Form.validateAll meddler (.map [])).runIn meddled = (.ok ⟨false, [.str "b"]⟩, w') ∧
      Linked meddled ts w' ∧ (∀ t ∈ ts, t.Holds meddler (.map [])) ∧
      WholePass meddled.form.fields ts ⟨false, [.str "b"]⟩ ∧
      w'.form.fields.keys = [.str "a", .str "c"] ∧
      w'.form.fields.isAmbiguous (.str "c") = .ok true := by
  obtain ⟨ts, outcome, w', ran, linked, held, accounts⟩ :=
    Form.validateAll_isolated (callWith_benign meddling_orderly 1)
      (⟨[], rfl⟩ : (Value.map []).IsMapping) (w := meddled) (Form.decisive_ofOptions _) rfl
  have verdict : ((Form.validateAll meddler (.map [])).runIn meddled).1 =
      .ok ⟨false, [.str "b"]⟩ := rfl
  have left : ((Form.validateAll meddler (.map [])).runIn meddled).2.form.fields.keys =
      [.str "a", .str "c"] := rfl
  have shared : ((Form.validateAll meddler (.map [])).runIn meddled).2.form.fields.isAmbiguous
      (.str "c") = .ok true := rfl
  rw [ran] at verdict left shared
  subst verdict
  exact ⟨ts, w', ran, linked, held, accounts, left, shared⟩

end Session

end FormRules
