/-
# Answers — what the built-in predicates answer with

A predicate may answer with any value, and it matters with which: a plain rule asks for `true`, its
inverse for anything that counts as false.  The built-in predicates end in four ways, and each of
them is a flag:

    a comparison or a search       most rules
    one of two exits               `isInt`, `isFloat` and the lengths, at their bounds
    what all members come to       the rules about each file
    the value itself               `required`, which gives a flag back and nothing else

`StandardRule.givesFlag_test` and `FileRule.givesFlag_test` say so for all values and all
parameters, accepted or not: where there is an answer, it is `true` or `false`.
-/
import FormRules.Predicate.Files
import FormRules.Predicate.Standard

namespace FormRules

/-- An answer that is `true` or `false`, and nothing that merely counts as one of them. -/
def Value.IsFlag (v : Value) : Prop := v = .bool true ∨ v = .bool false

theorem Value.isFlag_bool (b : Bool) : (Value.bool b).IsFlag := by
  cases b with
  | true => exact .inl rfl
  | false => exact .inr rfl

/-- What answers with a flag, if it answers. -/
def Outcome.GivesFlag (x : Outcome Value) : Prop := ∀ v, x = .ok v → v.IsFlag

variable {α : Type}

theorem givesFlag_bool (b : Bool) : Outcome.GivesFlag (.ok (.bool b)) := by
  rintro _ ⟨⟩
  exact Value.isFlag_bool b

theorem givesFlag_error (f : Failure) : Outcome.GivesFlag (.error f) := nofun

/-- What comes last decides. -/
theorem givesFlag_bind (x : Outcome α) {f : α → Outcome Value} (h : ∀ a, (f a).GivesFlag) :
    (x >>= f).GivesFlag := by
  cases x with
  | error e => exact givesFlag_error e
  | ok a => exact h a

theorem Outcome.GivesFlag.exists_bool {x : Outcome Value} (flag : x.GivesFlag)
    (answers : ∃ v, x = .ok v) : ∃ b, x = .ok (.bool b) := by
  obtain ⟨v, rfl⟩ := answers
  rcases flag v rfl with rfl | rfl
  · exact ⟨true, rfl⟩
  · exact ⟨false, rfl⟩

/-! ## Standard rules -/

namespace StandardRule

variable {text : String} {low high : Option String} {params : List String}

theorem givesFlag_within {read : String → Outcome α} {lowOk highOk : α → Bool} :
    (within read lowOk highOk low high).GivesFlag := by
  refine givesFlag_bind _ fun above => ?_
  split
  · refine givesFlag_bind _ fun below => ?_
    split
    · exact givesFlag_bool true
    · exact givesFlag_bool false
  · exact givesFlag_bool false

theorem givesFlag_testInt : (testInt text low high).GivesFlag := by
  unfold testInt
  split
  · exact givesFlag_bind _ fun n => givesFlag_within
  · exact givesFlag_bool false

theorem givesFlag_testFloat : (testFloat text low high).GivesFlag := by
  unfold testFloat
  split
  · split
    · exact givesFlag_bool false
    · exact givesFlag_within
  · exact givesFlag_bool false

theorem givesFlag_testLength : (testLength text low high).GivesFlag := givesFlag_within

theorem givesFlag_testMatching {pattern flags : String} :
    (testMatching text pattern flags).GivesFlag :=
  givesFlag_bind _ fun _ => givesFlag_bool _

theorem givesFlag_testText {r : StandardRule} : (testText text r params).GivesFlag := by
  unfold testText
  split <;> with_reducible first
    | exact givesFlag_bool _
    | exact givesFlag_error _
    | exact givesFlag_testMatching
    | exact givesFlag_testInt
    | exact givesFlag_testFloat
    | exact givesFlag_testLength

/-- A standard rule answers with a flag, if it answers. -/
theorem givesFlag_test (r : StandardRule) (v : Value) (params : List String) :
    (r.test v params).GivesFlag := by
  unfold test
  split
  · exact givesFlag_bool _
  · split
    · exact givesFlag_bind _ fun _ => givesFlag_testText
    · exact givesFlag_testText

end StandardRule

/-! ## File rules -/

namespace FileRule

/-- Members may answer with anything that counts: what they come to is a flag. -/
theorem givesFlag_allPass {test : Value → Outcome Value} {files : List Value} :
    (allPass test files).GivesFlag := by
  induction files with
  | nil => exact givesFlag_bool true
  | cons f rest ih =>
      refine givesFlag_bind _ fun answer => ?_
      split
      · exact ih
      · exact givesFlag_bool false

/-- A file rule answers with a flag, if it answers. -/
theorem givesFlag_test (rule : FileRule) (v : Value) (params : List String) :
    (rule.test v params).GivesFlag := by
  have counted (ok : Nat → Bool) : (testCount v ok).GivesFlag :=
    givesFlag_bind _ fun _ => givesFlag_bool _
  unfold test
  split
  · exact counted _
  · exact counted _
  · exact counted _
  · exact counted _
  · exact givesFlag_bind _ fun _ => givesFlag_bind _ fun _ => givesFlag_bool _
  · exact givesFlag_bind _ fun _ => givesFlag_bind _ fun _ => givesFlag_bind _ fun _ =>
      givesFlag_bool _
  · exact givesFlag_bind _ fun _ => givesFlag_bind _ fun _ => givesFlag_allPass
  · exact givesFlag_bind _ fun _ => givesFlag_allPass
  · exact givesFlag_bind _ fun _ => givesFlag_allPass
  · exact givesFlag_error _

end FileRule

end FormRules
