/-
# Messages — what is said about a failing rule

Sources of messages are texts for every rule or mappings from rules to texts.  Such a source says
something about a rule if it has a text for it that is not empty (`saying?`).  Of two sources the
second one is asked if the first says nothing, and if neither says anything there is no message:

    own says s                     s
    own says nothing, fallback s   s
    neither says anything          `false`

A message is never `true`, so the rule that decides a chain is simply the first one that fails
(`reported?_of_isHelp`).
-/
import FormRules.Proofs.Rule.Chain
import FormRules.Proofs.Value.Equality

namespace FormRules

/-- Messages by rule, or one text for all rules, or nothing. -/
def Value.IsHelp (v : Value) : Prop :=
  v = .null ∨ (∃ s, v = .str s) ∨
    ∃ entries, v.opened = .map entries ∧ ∀ e ∈ entries, ∃ s, e.2 = .str s

/-- What a source says about a rule, if it says something. -/
def saying? (source : Value) (rule : String) : Option String :=
  match messageFor source rule with
  | .str s => if s = "" then none else some s
  | _ => none

variable {source own fallback value : Value} {rule : String}

theorem messageFor_cases (h : source.IsHelp) (rule : String) :
    messageFor source rule = .null ∨ ∃ s, messageFor source rule = .str s := by
  rcases h with rfl | ⟨s, rfl⟩ | ⟨entries, opened, texts⟩
  · exact .inl rfl
  · exact .inr ⟨s, rfl⟩
  · have looked : messageFor source rule = (Table.find? entries (.str rule)).getD .null := by
      rw [messageFor, opened]
    rw [looked]
    cases found : Table.find? entries (.str rule) with
    | none => exact .inl rfl
    | some message =>
        obtain ⟨k, hk, -⟩ := Table.mem_of_find? found
        exact .inr (texts _ hk)

/-- A message counts exactly if it says something. -/
theorem messageFor_of_isHelp (h : source.IsHelp) (rule : String) :
    (∃ s, saying? source rule = some s ∧ messageFor source rule = .str s ∧ s ≠ "") ∨
      saying? source rule = none ∧ (messageFor source rule).truthy = false := by
  rcases messageFor_cases h rule with none | ⟨s, text⟩
  · right
    simp [saying?, none, Value.truthy]
  · by_cases empty : s = ""
    · right
      simp [saying?, text, empty, Value.truthy]
    · left
      exact ⟨s, by simp [saying?, text, empty], text, empty⟩

theorem truthy_str {s : String} (h : s ≠ "") : (Value.str s).truthy = true := by
  simpa [Value.truthy] using h

theorem resolveMessage_of_isHelp (hown : own.IsHelp) (hfallback : fallback.IsHelp)
    (rule : String) :
    resolveMessage own fallback rule =
      match (saying? own rule).or (saying? fallback rule) with
      | some s => .str s
      | none => .bool false := by
  unfold resolveMessage
  rcases messageFor_of_isHelp hown rule with ⟨s, said, text, full⟩ | ⟨silent, empty⟩
  · simp [said, text, truthy_str full]
  · rcases messageFor_of_isHelp hfallback rule with ⟨s, said, text, full⟩ | ⟨silent', empty'⟩
    · simp [silent, empty, said, text, truthy_str full]
    · simp [silent, empty, silent', empty']

/-- No message of such sources is `true`. -/
theorem isTrue_resolveMessage (hown : own.IsHelp) (hfallback : fallback.IsHelp) (rule : String) :
    (resolveMessage own fallback rule).isTrue = false := by
  rw [resolveMessage_of_isHelp hown hfallback]
  split <;> rfl

namespace Chain

variable {registry : Registry}

/-- With messages that are texts, the first rule that fails is reported. -/
theorem reported?_of_isHelp (hown : own.IsHelp) (hfallback : fallback.IsHelp)
    (rules : List Rule) :
    reported? registry own fallback value rules =
      (rules.find? (fails registry value)).map fun r => resolveMessage own fallback r.name := by
  have same : isReported registry own fallback value = fails registry value := by
    funext r
    simp [isReported, isTrue_resolveMessage hown hfallback]
  rw [reported?, same]

end Chain

end FormRules
