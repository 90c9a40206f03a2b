/-
# Chains — which failing rule decides the result

A chain evaluates all of its rules.  While the result is `true`, the next rule that does not pass
puts its message in the place of the result; a result that is not `true` stays.  A message is what
a source holds under the name of the rule, and a source may hold `true`.  Such a message does not
end the search, so the rule that decides is not always the first one that fails:

    rules                                      result
    every failing rule has the message `true`  `true`
    otherwise                                  message of the first failing rule with another one

`run_eq` says this when every rule can be evaluated.
-/
import FormRules.Rule.Chain

namespace FormRules

namespace Chain

variable (registry : Registry) (own fallback value : Value)

/-- A rule can be evaluated on a value: it is known, and its predicate gives a result. -/
def Evaluates (r : Rule) : Prop := ∃ result, (evaluate registry value r).2 = .ok result

/-- Whether a rule fails on a value: it gives a result other than `true`. -/
def fails (r : Rule) : Bool :=
  match (evaluate registry value r).2 with
  | .ok result => !result.isTrue
  | .error _ => false

/-- Whether a rule fails with a message other than `true`. -/
def isReported (r : Rule) : Bool :=
  fails registry value r && !(resolveMessage own fallback r.name).isTrue

/-- The message of the first failing rule that has one other than `true`. -/
def reported? (rules : List Rule) : Option Value :=
  (rules.find? (isReported registry own fallback value)).map
    fun r => resolveMessage own fallback r.name

variable {registry own fallback value}

theorem isTrue_of_mem_reported? {rules : List Rule} {message : Value}
    (h : message ∈ reported? registry own fallback value rules) : message.isTrue = false := by
  obtain ⟨r, found, rfl⟩ := Option.map_eq_some_iff.mp h
  have reported := List.find?_some found
  simp only [isReported, Bool.and_eq_true, Bool.not_eq_true'] at reported
  exact reported.2

theorem isSome_reported? {rules : List Rule} :
    (reported? registry own fallback value rules).isSome = true ↔
      ∃ r ∈ rules, isReported registry own fallback value r = true := by
  rw [reported?, Option.isSome_map, List.find?_isSome]

/-! ## Evaluating rules in order -/

/-- The first rule of a list, in terms of its own result. -/
theorem runFrom_cons {r : Rule} {this : Value}
    (h : (evaluate registry value r).2 = .ok this) (result : Value) (rest : List Rule) :
    (runFrom registry own fallback value result (r :: rest)).2 =
      (runFrom registry own fallback value
        (if result.isTrue && !this.isTrue then resolveMessage own fallback r.name else result)
        rest).2 := by
  rcases evaluated : evaluate registry value r with ⟨calls, outcome⟩
  obtain rfl : outcome = .ok this := by simpa [evaluated] using h
  simp only [runFrom, evaluated]

/-- A result that is not `true` stays. -/
theorem runFrom_of_not_isTrue {result : Value} (h : result.isTrue = false) {rules : List Rule}
    (hrules : ∀ r ∈ rules, Evaluates registry value r) :
    (runFrom registry own fallback value result rules).2 = .ok result := by
  induction rules with
  | nil => rfl
  | cons r rest ih =>
      obtain ⟨this, evaluated⟩ := hrules r List.mem_cons_self
      rw [runFrom_cons evaluated, h]
      exact ih fun r' hr' => hrules r' (List.mem_cons_of_mem _ hr')

/-- The rules that are evaluated while the result is `true`. -/
theorem runFrom_true {rules : List Rule} (hrules : ∀ r ∈ rules, Evaluates registry value r) :
    (runFrom registry own fallback value (.bool true) rules).2 =
      .ok ((reported? registry own fallback value rules).getD (.bool true)) := by
  induction rules with
  | nil => rfl
  | cons r rest ih =>
      have hrest : ∀ r ∈ rest, Evaluates registry value r :=
        fun r' hr' => hrules r' (List.mem_cons_of_mem _ hr')
      obtain ⟨this, evaluated⟩ := hrules r List.mem_cons_self
      rw [runFrom_cons evaluated]
      cases passes : this.isTrue with
      | true =>
          have quiet : isReported registry own fallback value r = false := by
            simp [isReported, fails, evaluated, passes]
          simpa [reported?, List.find?_cons, quiet, Value.isTrue] using ih hrest
      | false =>
          have failing : fails registry value r = true := by simp [fails, evaluated, passes]
          cases affirms : (resolveMessage own fallback r.name).isTrue with
          | true =>
              -- The message takes the place of the result and is `true` too: the search goes on.
              have quiet : isReported registry own fallback value r = false := by
                simp [isReported, failing, affirms]
              simpa [reported?, List.find?_cons, quiet, Value.isTrue_iff.mp affirms] using ih hrest
          | false =>
              have loud : isReported registry own fallback value r = true := by
                simp [isReported, failing, affirms]
              simpa [reported?, List.find?_cons, loud, Value.isTrue] using
                runFrom_of_not_isTrue affirms hrest

/-! ## Chains -/

/-- The rules of a chain can be evaluated on a value with the present registries. -/
def Runs (c : Chain) (registries : Registries) (value : Value) : Prop :=
  ∀ r ∈ c.rules, Evaluates (registries.get c.shelf) value r

variable {c : Chain} {registries : Registries}

/-- A chain gives the message of the first failing rule that has one other than `true`. -/
theorem run_eq (h : c.Runs registries value) (own fallback : Value) :
    (c.run registries own fallback value).2 =
      .ok ((reported? (registries.get c.shelf) own fallback value c.rules).getD (.bool true)) :=
  runFrom_true h

/-- A chain gives a result only if each of its rules does. -/
theorem runs_of_run {own fallback result : Value}
    (h : (c.run registries own fallback value).2 = .ok result) : c.Runs registries value := by
  suffices all : ∀ (rules : List Rule) (before : Value),
      (runFrom (registries.get c.shelf) own fallback value before rules).2 = .ok result →
        ∀ r ∈ rules, Evaluates (registries.get c.shelf) value r from all c.rules _ h
  intro rules
  induction rules with
  | nil => exact fun _ _ _ hr => absurd hr List.not_mem_nil
  | cons r rest ih =>
      intro before ran
      rcases evaluated : evaluate (registries.get c.shelf) value r with ⟨calls, f | this⟩
      · simp [runFrom, evaluated] at ran
      · have gives : (evaluate (registries.get c.shelf) value r).2 = .ok this := by rw [evaluated]
        rw [runFrom_cons gives] at ran
        exact List.forall_mem_cons.mpr ⟨⟨this, gives⟩, ih _ ran⟩

/-- A chain that fails does so because of one of its rules. -/
theorem exists_evaluate_of_run {own fallback : Value} {f : Failure}
    (h : (c.run registries own fallback value).2 = .error f) :
    ∃ r ∈ c.rules, (evaluate (registries.get c.shelf) value r).2 = .error f := by
  suffices some : ∀ (rules : List Rule) (before : Value),
      (runFrom (registries.get c.shelf) own fallback value before rules).2 = .error f →
        ∃ r ∈ rules, (evaluate (registries.get c.shelf) value r).2 = .error f from some c.rules _ h
  intro rules
  induction rules with
  | nil => exact fun _ => nofun
  | cons r rest ih =>
      intro before failed
      rcases evaluated : evaluate (registries.get c.shelf) value r with ⟨calls, e | this⟩
      · simp only [runFrom, evaluated] at failed
        exact ⟨r, List.mem_cons_self, by rw [evaluated]; exact failed⟩
      · have gives : (evaluate (registries.get c.shelf) value r).2 = .ok this := by rw [evaluated]
        rw [runFrom_cons gives] at failed
        obtain ⟨r', hr', evaluated'⟩ := ih _ failed
        exact ⟨r', List.mem_cons_of_mem _ hr', evaluated'⟩

/-- A chain does not pass exactly when some failing rule has a message other than `true`. -/
theorem isTrue_getD_reported? {rules : List Rule} :
    ((reported? registry own fallback value rules).getD (.bool true)).isTrue = false ↔
      ∃ r ∈ rules, isReported registry own fallback value r = true := by
  rw [← isSome_reported?]
  cases h : reported? registry own fallback value rules with
  | none => simp [Value.isTrue]
  | some message => simpa using isTrue_of_mem_reported? h

end Chain

end FormRules
