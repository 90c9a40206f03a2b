/-
# Inversion — when a rule and its inverse are opposites

A plain rule passes with the answer `true` only, and its inverse with every answer that counts as
false.  Between the two there is room:

    answer of the predicate      plain rule          inverted rule
    `true`                       passes              does not pass
    `false`                      does not pass       passes
    another that is not truthy   does not pass       passes, though the plain result is no flag
    another that is truthy       does not pass       does not pass
    none, it fails               fails               fails in the same way

So a rule and its inverse are opposites on a value exactly if the predicate fails on it or answers
with a flag (`opposed_iff`).  Nothing keeps a predicate that is registered later from answering
with something else; the built-in ones never do, whatever the value and the parameters are.
-/
import FormRules.Proofs.Predicate.Answers
import FormRules.Proofs.Rule.Calls
import FormRules.Proofs.Rule.Evaluating

namespace FormRules

namespace Rule

/-- A rule without the mark of inversion. -/
def plain (r : Rule) : Rule := { r with inverse := false }

/-- A rule with the mark of inversion. -/
def inverted (r : Rule) : Rule := { r with inverse := true }

end Rule

namespace Chain

variable {registry : Registry} {registration : Registration} {shelf : Shelf} {r : Rule}
  {value : Value} {outcome : Outcome Value}

/-- A rule and its inverse on a value: they fail in the same way, or one of them gives `true` and
the other one `false`. -/
inductive Opposed (registry : Registry) (value : Value) (r : Rule) : Prop
  | fail {f : Failure} (plain : (evaluate registry value r.plain).2 = .error f)
      (inverted : (evaluate registry value r.inverted).2 = .error f)
  | differ (b : Bool) (plain : (evaluate registry value r.plain).2 = .ok (.bool b))
      (inverted : (evaluate registry value r.inverted).2 = .ok (.bool !b))

/-! ## Any predicate -/

theorem evaluate_plain (found : registry.find? r.name = some registration) (value : Value) :
    (evaluate registry value r.plain).2 = registration.predicate.apply value r.params := by
  rw [evaluate, Registry.get, Rule.plain, found]
  exact congrFun Except.map_id _

theorem evaluate_inverted (found : registry.find? r.name = some registration) (value : Value) :
    (evaluate registry value r.inverted).2 =
      (registration.predicate.apply value r.params).map fun answer => .bool !answer.truthy := by
  rw [evaluate, Registry.get, Rule.inverted, found]
  rfl

/-- **A rule and its inverse are opposites** on a value exactly if the predicate answers with a flag
there, or fails. -/
theorem opposed_iff (found : registry.find? r.name = some registration) (value : Value) :
    Opposed registry value r ↔
      (registration.predicate.apply value r.params).GivesFlag := by
  constructor
  · rintro (⟨plain, -⟩ | ⟨b, plain, -⟩) answer answered
    · rw [evaluate_plain found, answered] at plain
      cases plain
    · rw [evaluate_plain found, answered] at plain
      cases plain
      exact Value.isFlag_bool b
  · intro flags
    have plain := evaluate_plain found value
    have inverted := evaluate_inverted found value
    cases answered : registration.predicate.apply value r.params with
    | error f =>
        rw [answered] at plain inverted
        exact .fail plain inverted
    | ok answer =>
        rw [answered] at plain inverted
        rcases flags answer answered with rfl | rfl
        · exact .differ true plain inverted
        · exact .differ false plain inverted

/-! ## Built-in predicates -/

/-- A built-in predicate answers with a flag, if it answers. -/
theorem givesFlag_of_builtin
    (builtin : (Registries.builtin.get shelf).find? r.name = some registration)
    (value : Value) (params : List String) :
    (registration.predicate.apply value params).GivesFlag := by
  cases shelf with
  | standard =>
      obtain ⟨rule, -, rfl⟩ := Registries.find?_standard_eq_some_iff.mp builtin
      exact rule.givesFlag_test value params
  | file =>
      obtain ⟨rule, -, rfl⟩ := Registries.find?_file_eq_some_iff.mp builtin
      exact rule.givesFlag_test value params

/-- A built-in rule in a registry where its name still stands for it is evaluated like among the
built-in ones. -/
theorem evaluates_plain_iff
    (builtin : (Registries.builtin.get shelf).find? r.name = some registration)
    (known : registry.find? r.name = some registration)
    (accepted : registration.checked r.params = .ok ()) (value : Value) :
    Evaluates registry value r.plain ↔ r.Applies value shelf := by
  have acceptable : r.plain.Accepted (Registries.builtin.get shelf) :=
    Rule.accepted_iff.mpr ⟨registration, builtin, accepted⟩
  have alike : Evaluates registry value r.plain ↔
      Evaluates (Registries.builtin.get shelf) value r.plain := by
    rw [Evaluates, Evaluates, evaluate_plain known, evaluate_plain builtin]
  rw [alike, evaluates_iff acceptable]
  cases shelf <;> exact Iff.rfl

/-- **Inversion is exact for the built-in rules.**  Wherever a name stands for a built-in predicate,
and whatever the value is, the predicate answers with exactly `true` or exactly `false` if it
answers, so that the rule and its inverse are opposites: one of them passes and the other one does
not, or both fail in the same way.  With accepted parameters they fail exactly on the values that
the rule does not apply to. -/
theorem opposed_of_builtin
    (builtin : (Registries.builtin.get shelf).find? r.name = some registration)
    (known : registry.find? r.name = some registration)
    (accepted : registration.checked r.params = .ok ()) (value : Value) :
    (∀ params answer, registration.predicate.apply value params = .ok answer → answer.IsFlag) ∧
      Opposed registry value r ∧
      (Evaluates registry value r.plain ↔ r.Applies value shelf) := by
  have flag := givesFlag_of_builtin builtin value
  exact ⟨flag, (opposed_iff known value).mpr (flag r.params),
    evaluates_plain_iff builtin known accepted value⟩

/-- A file whose size is no number: both the rule about sizes and its inverse fail. -/
theorem opposed_sizeless :
    Opposed Registries.builtin.file (.list [.file (.str "a.txt") .null .null])
      ⟨"isTotalSize", false, ["2mb"]⟩ ∧
      ¬ Evaluates Registries.builtin.file (.list [.file (.str "a.txt") .null .null])
        ⟨"isTotalSize", false, ["2mb"]⟩ := by
  have builtin : (Registries.builtin.get .file).find? "isTotalSize" =
      some FileRule.isTotalSize.registration := by rfl
  have accepted : FileRule.isTotalSize.registration.checked ["2mb"] = .ok () := by rfl
  obtain ⟨-, opposed, -⟩ :=
    opposed_of_builtin (r := ⟨"isTotalSize", false, ["2mb"]⟩) builtin builtin accepted
      (.list [.file (.str "a.txt") .null .null])
  refine ⟨opposed, ?_⟩
  rintro ⟨result, evaluated⟩
  cases evaluated

end Chain

end FormRules
