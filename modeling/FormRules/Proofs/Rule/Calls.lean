/-
# Calls — which predicates a chain calls, and what their answers decide

A chain calls the predicates of its rules in order, each once, with the value and the parameters of
the rule.  An answer never ends this, whether the rule passes or not; only a failure does.

    the chain                              calls the predicates of   gives
    comes to a predicate that fails        the rules up to that one  the failure
    comes to a rule that is not known      the rules before it       the failure
    has only rules that pass               all rules                 `true`
    has a first rule that does not pass    all rules                 what is said about that rule

`Concludes` has one constructor for each line that ends with a result, and one for the first two
(`Stops`).  A rule that has been compiled is known as long as the registry is not cleared, so for
such a chain the second line does not apply.
-/
import FormRules.Proofs.Form.Validation
import FormRules.Proofs.Rule.Compiling
import FormRules.Proofs.Rule.Message

namespace FormRules

/-- Whether a rule passes with an answer of its predicate: with `true`, and an inverted rule with
whatever counts as false. -/
def Rule.passes (r : Rule) (answer : Value) : Bool :=
  if r.inverse then !answer.truthy else answer.isTrue

/-- What is said about a rule: the first text that a source has for it, or `false`. -/
def messageFrom (own fallback : Value) (rule : String) : Value :=
  match (saying? own rule).or (saying? fallback rule) with
  | some text => .str text
  | none => .bool false

namespace Chain

variable {registry : Registry} {own fallback value : Value} {r : Rule} {rules : List Rule}
  {call : RuleCall} {calls : List RuleCall} {f : Failure}

/-- A known rule's predicate is called with the value and the rule's parameters, and this is what
comes of it. -/
inductive Asks (registry : Registry) (value : Value) (r : Rule) : RuleCall → Outcome Value → Prop
  | known {registration : Registration} (found : registry.find? r.name = some registration) :
      Asks registry value r ⟨r, registration.predicate.label, value⟩
        (registration.predicate.apply value r.params)

/-- The call of a rule's predicate gives an answer. -/
def Answers (registry : Registry) (value : Value) (r : Rule) (call : RuleCall) : Prop :=
  ∃ answer, Asks registry value r call (.ok answer)

/-- A rule's predicate gives an answer that the rule passes with. -/
def IsMet (registry : Registry) (value : Value) (r : Rule) : Prop :=
  ∃ call answer, Asks registry value r call (.ok answer) ∧ r.passes answer = true

/-- Rules end early, after some calls and with a failure. -/
inductive Stops (registry : Registry) (value : Value) :
    List Rule → List RuleCall → Failure → Prop
  | raises {rules before after : List Rule} {r : Rule} {calls : List RuleCall} {call : RuleCall}
      {f : Failure} (split : rules = before ++ r :: after)
      (answered : List.Forall₂ (Answers registry value) before calls)
      (raised : Asks registry value r call (.error f)) :
      Stops registry value rules (calls ++ [call]) f
  | unknown {rules before after : List Rule} {r : Rule} {calls : List RuleCall}
      (split : rules = before ++ r :: after)
      (answered : List.Forall₂ (Answers registry value) before calls)
      (missing : registry.find? r.name = none) :
      Stops registry value rules calls
        (.configuration (.unknownRule r.name registry.name registry.names))

/-- How a chain ends: the calls it makes, and what it gives. -/
inductive Concludes (registry : Registry) (own fallback value : Value) :
    List Rule → List RuleCall → Outcome Value → Prop
  | stops {rules : List Rule} {calls : List RuleCall} {f : Failure}
      (stopped : Stops registry value rules calls f) :
      Concludes registry own fallback value rules calls (.error f)
  | passes {rules : List Rule} {calls : List RuleCall}
      (answered : List.Forall₂ (Answers registry value) rules calls)
      (pass : ∀ r ∈ rules, IsMet registry value r) :
      Concludes registry own fallback value rules calls (.ok (.bool true))
  | fails {before after : List Rule} {r : Rule} {calls : List RuleCall}
      (answered : List.Forall₂ (Answers registry value) (before ++ r :: after) calls)
      (pass : ∀ r ∈ before, IsMet registry value r) (failed : ¬ IsMet registry value r) :
      Concludes registry own fallback value (before ++ r :: after) calls
        (.ok (messageFrom own fallback r.name))

/-! ## One rule -/

theorem isTrue_invert (r : Rule) (answer : Value) : (invert r answer).isTrue = r.passes answer := by
  unfold invert Rule.passes
  split
  · cases answer.truthy <;> rfl
  · rfl

theorem evaluate_of_asks {outcome : Outcome Value} (h : Asks registry value r call outcome) :
    evaluate registry value r = ([call], outcome.map (invert r)) := by
  cases h with
  | known found => simp [evaluate, Registry.get, found]

theorem evaluate_of_unknown (h : registry.find? r.name = none) :
    evaluate registry value r =
      ([], .error (.configuration (.unknownRule r.name registry.name registry.names))) := by
  simp [evaluate, Registry.get, h, misconfigured]

/-- A rule that is known is asked, with one outcome or the other. -/
theorem asks_or_unknown (registry : Registry) (value : Value) (r : Rule) :
    (∃ call outcome, Asks registry value r call outcome) ∨ registry.find? r.name = none := by
  cases found : registry.find? r.name with
  | none => exact .inr rfl
  | some registration => exact .inl ⟨_, _, .known found⟩

theorem evaluates_of_answers (h : Answers registry value r call) :
    Evaluates registry value r := by
  obtain ⟨answer, asked⟩ := h
  exact ⟨invert r answer, by rw [evaluate_of_asks asked]; rfl⟩

/-- A rule whose predicate gives an answer fails exactly if it does not pass. -/
theorem fails_eq_false_iff_isMet (h : Answers registry value r call) :
    fails registry value r = false ↔ IsMet registry value r := by
  obtain ⟨answer, asked⟩ := h
  have evaluated := evaluate_of_asks asked
  have fails : fails registry value r = !r.passes answer := by
    simp [fails, evaluated, Except.map, isTrue_invert]
  rw [fails, Bool.not_eq_false']
  constructor
  · exact fun pass => ⟨call, answer, asked, pass⟩
  · rintro ⟨call', answer', asked', pass⟩
    have same := congrArg Prod.snd (evaluated.symm.trans (evaluate_of_asks asked'))
    have inverted : invert r answer = invert r answer' := Except.ok.inj same
    rw [← isTrue_invert, inverted, isTrue_invert, pass]

/-! ## Rules one after the other -/

theorem Stops.cons (h : Stops registry value rules calls f)
    (answered : Answers registry value r call) :
    Stops registry value (r :: rules) (call :: calls) f := by
  cases h with
  | raises split before raised =>
      exact .raises (congrArg (r :: ·) split) (.cons answered before) raised
  | unknown split before missing =>
      exact .unknown (congrArg (r :: ·) split) (.cons answered before) missing

/-- Among rules that end early there is one that does not pass. -/
theorem exists_not_isMet_of_stops (h : Stops registry value rules calls f) :
    ∃ r ∈ rules, ¬ IsMet registry value r := by
  cases h with
  | raises split _ raised =>
      refine ⟨_, by rw [split]; exact List.mem_append_right _ List.mem_cons_self, ?_⟩
      rintro ⟨call', answer, asked, -⟩
      cases (evaluate_of_asks raised).symm.trans (evaluate_of_asks asked)
  | unknown split _ missing =>
      refine ⟨_, by rw [split]; exact List.mem_append_right _ List.mem_cons_self, ?_⟩
      rintro ⟨call', answer, asked, -⟩
      cases (evaluate_of_unknown missing).symm.trans (evaluate_of_asks asked)

/-- Rules end early, or the predicate of each of them gives an answer; the result does not matter
for this. -/
theorem runFrom_cases (registry : Registry) (own fallback value result : Value)
    (rules : List Rule) :
    (∃ calls f, Stops registry value rules calls f ∧
        runFrom registry own fallback value result rules = (calls, .error f)) ∨
      ∃ calls last, List.Forall₂ (Answers registry value) rules calls ∧
        runFrom registry own fallback value result rules = (calls, .ok last) := by
  induction rules generalizing result with
  | nil => exact .inr ⟨[], result, .nil, rfl⟩
  | cons r rest ih =>
      rcases asks_or_unknown registry value r with ⟨call, f | answer, asked⟩ | missing
      · left
        refine ⟨[call], f, .raises (List.nil_append _).symm .nil asked, ?_⟩
        simp [runFrom, evaluate_of_asks asked, Except.map]
      · have answered : Answers registry value r call := ⟨answer, asked⟩
        simp only [runFrom, evaluate_of_asks asked, Except.map]
        rcases ih _ with ⟨calls, f, stopped, ran⟩ | ⟨calls, last, all, ran⟩
        · exact .inl ⟨call :: calls, f, stopped.cons answered, by rw [ran]; rfl⟩
        · exact .inr ⟨call :: calls, last, .cons answered all, by rw [ran]; rfl⟩
      · left
        refine ⟨[], _, .unknown (List.nil_append _).symm .nil missing, ?_⟩
        simp [runFrom, evaluate_of_unknown missing]

theorem exists_answers (h : List.Forall₂ (Answers registry value) rules calls) :
    ∀ r ∈ rules, ∃ call, Answers registry value r call := by
  induction h with
  | nil => exact fun _ => nofun
  | cons first _ ih => exact List.forall_mem_cons.mpr ⟨⟨_, first⟩, ih⟩

/-- What decides among rules whose predicates all give answers is the first one that does not
pass. -/
theorem concludes_of_answers (hown : own.IsHelp) (hfallback : fallback.IsHelp)
    (h : List.Forall₂ (Answers registry value) rules calls) :
    Concludes registry own fallback value rules calls
      (.ok ((reported? registry own fallback value rules).getD (.bool true))) := by
  have answered := exists_answers h
  rw [reported?_of_isHelp hown hfallback]
  cases found : rules.find? (fails registry value) with
  | none =>
      refine .passes h fun r hr => ?_
      obtain ⟨call, this⟩ := answered r hr
      exact (fails_eq_false_iff_isMet this).mp (by simpa using List.find?_eq_none.mp found r hr)
  | some r =>
      obtain ⟨failed, before, after, rfl, passed⟩ := List.find?_eq_some_iff_append.mp found
      rw [Option.map_some, Option.getD_some, resolveMessage_of_isHelp hown hfallback]
      refine .fails h (fun r hr => ?_) ?_
      · obtain ⟨call, this⟩ := answered r (by simp [hr])
        exact (fails_eq_false_iff_isMet this).mp (by simpa using passed r hr)
      · obtain ⟨call, this⟩ := answered r (by simp)
        rw [← fails_eq_false_iff_isMet this, failed]
        exact nofun

/-- The calls that a chain makes, and what it gives. -/
theorem concludes_run (hown : own.IsHelp) (hfallback : fallback.IsHelp) (registries : Registries)
    (value : Value) (c : Chain) :
    Concludes (registries.get c.shelf) own fallback value c.rules
      (c.run registries own fallback value).1 (c.run registries own fallback value).2 := by
  rcases runFrom_cases (registries.get c.shelf) own fallback value (.bool true) c.rules with
    ⟨calls, f, stopped, ran⟩ | ⟨calls, last, all, ran⟩
  · rw [run, ran]
    exact .stops stopped
  · have concluded := concludes_of_answers hown hfallback all
    have runs : c.Runs registries value := fun r hr =>
      (exists_answers all r hr).elim fun _ => evaluates_of_answers
    rw [run_eq runs]
    rwa [run, ran]

/-- A chain gives `true` exactly if every rule passes. -/
theorem Concludes.eq_true_iff {outcome : Outcome Value}
    (h : Concludes registry own fallback value rules calls outcome) :
    outcome = .ok (.bool true) ↔ ∀ r ∈ rules, IsMet registry value r := by
  cases h with
  | stops stopped =>
      obtain ⟨r, hr, failed⟩ := exists_not_isMet_of_stops stopped
      exact iff_of_false nofun fun pass => failed (pass r hr)
  | passes _ pass => exact iff_of_true rfl pass
  | fails _ _ failed =>
      refine iff_of_false (fun said => ?_) fun pass => failed (pass _ (by simp))
      unfold messageFrom at said
      split at said <;> cases said

/-- The rules of a chain are known to the registries that it was compiled with. -/
theorem known_of_compile {registries : Registries} {shelf : Shelf} {text : String} {c : Chain}
    (h : compile registries shelf text = .ok c) :
    ∀ r ∈ c.rules, ∃ registration, (registries.get c.shelf).find? r.name = some registration := by
  obtain ⟨-, rfl, accepted⟩ := compile_eq_ok_iff.mp h
  intro r hr
  obtain ⟨registration, found, -⟩ := Rule.accepted_iff.mp (accepted r hr)
  exact ⟨registration, found⟩

end Chain

namespace Form

open FormM

/-- **What a chain does to a value.**  The predicates of its rules are called in order, each once and
with the parameters of its rule, until one fails, and otherwise all of them; nothing else changes.
The result is `true` exactly if every rule passes, and otherwise the first rule that does not pass
decides it: the result is what the field's messages, or failing these the form's, say about that
rule, or `false`.  A chain that was compiled with the present registries has no unknown rule. -/
theorem runChain_concludes {w : World} {id : FieldId} (chain : Chain) (value : Value)
    (hown : (w.field id).errorHelp.IsHelp) (hfallback : w.form.defaultHelp.IsHelp) :
    ∃ calls outcome,
      Chain.Concludes (w.registries.get chain.shelf) (w.field id).errorHelp w.form.defaultHelp
        value chain.rules calls outcome ∧
      (runChain id chain value).runIn w =
        (outcome, { w with trace := (calls.map .rule).reverse ++ w.trace }) ∧
      (outcome = .ok (.bool true) ↔
        ∀ r ∈ chain.rules, Chain.IsMet (w.registries.get chain.shelf) value r) ∧
      ∀ shelf text, Chain.compile w.registries shelf text = .ok chain → ∀ r ∈ chain.rules,
        ∃ registration, (w.registries.get chain.shelf).find? r.name = some registration := by
  have concluded := Chain.concludes_run hown hfallback w.registries value chain
  rcases evaluated : chain.run w.registries (w.field id).errorHelp w.form.defaultHelp value with
    ⟨calls, outcome⟩
  rw [evaluated] at concluded
  refine ⟨calls, outcome, concluded, ?_, concluded.eq_true_iff, fun _ _ => Chain.known_of_compile⟩
  simp [runChain, runIn_bind, evaluated, runIn_emitCalls]

/-! ## A chain whose second rule decides -/

/-- Predicates that answer with a number and with a text. -/
def hesitantRules : Registry :=
  ((Registry.empty "standard").register "never" ⟨⟨some "never", fun _ _ => .ok (.int 0)⟩, none⟩)
    |>.register "unsure" ⟨⟨some "unsure", fun _ _ => .ok (.str "perhaps")⟩, none⟩

/-- The rules `!never,unsure,never`, compiled. -/
def hesitant : Chain :=
  ⟨[⟨"never", true, []⟩, ⟨"unsure", false, []⟩, ⟨"never", false, []⟩], .standard⟩

/-- A field whose messages are silent about the rule `unsure`, in a form that is not. -/
def asking : World :=
  let help : Value := .map [(.str "unsure", .str ""), (.str "never", .str "Never.")]
  { World.initial ⟨hesitantRules, .empty "file"⟩
      (ofOptions { FormOptions.default with errorHelp := .str "Yes or no?" }) with
    objects := [{ (default : Field) with name := .str "f", errorHelp := help }] }

/-- The inverted rule passes, the next one decides, and the last one is called although its message
does not count any more. -/
theorem runChain_hesitant :
    Chain.compile asking.registries .standard "!never,unsure,never" = .ok hesitant ∧
      (asking.field 0).errorHelp.IsHelp ∧ asking.form.defaultHelp.IsHelp ∧
      ∃ calls, calls.length = 3 ∧ Chain.Concludes hesitantRules (asking.field 0).errorHelp
        (.str "Yes or no?") (.int 7) hesitant.rules calls (.ok (.str "Yes or no?")) := by
  have own : (asking.field 0).errorHelp.IsHelp := .inr (.inr ⟨_, rfl, by simp⟩)
  have fallback : asking.form.defaultHelp.IsHelp := .inr (.inl ⟨_, rfl⟩)
  obtain ⟨calls, outcome, concluded, ran, -⟩ :=
    runChain_concludes hesitant (.int 7) own fallback
  obtain rfl : .ok (.str "Yes or no?") = outcome := congrArg Prod.fst ran
  have reported : 3 = ((calls.map Event.rule).reverse ++ asking.trace).length :=
    congrArg (·.2.trace.length) ran
  refine ⟨by rfl, own, fallback, calls, ?_, concluded⟩
  simpa [asking, World.initial] using reported.symm

end Form

end FormRules
