/-
# Display — what is shown of a field that has failed

The state of a field for display is read off the form, and reading it changes nothing
(`runIn_statusOf`).  The help for an error is the message that is recorded, or else the field's own
plain message.  After a rule has failed there are two cases:

    sources of messages             recorded        help
    one says something              the message     the message
    none says anything              `true`          nothing that counts

so what is shown is the message, or that the field is invalid (`shown_resolveMessage`).
-/
import FormRules.Proofs.Form.Quiet

namespace FormRules

open FormM

namespace Form

variable {w : World} {b : Value × List Entry} {error : Value}

/-- The one field of a name, if there is one. -/
def oneField (w : World) : List Entry → Option Field
  | [e] => some (w.field e.field)
  | _ => none

theorem oneField_of_sameGround {w w' : World} (h : w.SameGround w') : oneField w' = oneField w := by
  funext entries
  unfold oneField
  rw [h.field]

theorem runIn_uniqueField? (hb : b ∈ w.form.fields.buckets) :
    (uniqueField? b.1).runIn w = (.ok (oneField w b.2), w) := by
  have found : w.form.fields.bucket? b.1 = .ok (some b.2) := by
    rw [FieldTable.bucket?, if_pos (w.form.fields.isKey b hb),
      Table.find?_of_mem w.form.fields.distinct hb]
  have entry := FieldTable.entry_of_mem hb
  have known : w.form.fields.hasName b.1 = .ok true := by
    rw [FieldTable.hasName, found]
    rfl
  have ambiguous : w.form.fields.isAmbiguous b.1 = .ok (decide (1 < b.2.length)) := by
    rw [FieldTable.isAmbiguous, found]
    rfl
  rcases FieldTable.one_or_more hb with ⟨e, one⟩ | ⟨e, e', more, many⟩
  · rw [one] at entry
    simp [uniqueField?, fieldNamed, runIn_bind, runIn_map, known, ambiguous, entry, one,
      FieldTable.single, oneField, Except.map]
  · simp [uniqueField?, runIn_bind, known, ambiguous, many, oneField]

/-- The help for an error of a field. -/
def helpOf (field : Option Field) (error : Value) : Value :=
  if error.isStr then error
  else if !error.truthy then .null
  else (field.map fun f => messageOf f.errorHelp).getD .null

theorem runIn_helpFor (hb : b ∈ w.form.fields.buckets) :
    (helpFor b.1 error).runIn w = (.ok (helpOf (oneField w b.2) error), w) := by
  unfold helpFor helpOf
  split
  · rfl
  · split
    · rfl
    · rw [runIn_bind_ok (runIn_uniqueField? hb)]
      cases oneField w b.2 <;> rfl

/-- The state of a registered name is read off the form. -/
theorem runIn_statusOf (hb : b ∈ w.form.fields.buckets) {model : Table Value}
    (hmodel : w.form.options.model = .map model) :
    ∃ status, (statusOf b.1).runIn w = (.ok status, w) ∧
      status.help = helpOf (oneField w b.2) (w.errorOf b.1) := by
  have hname := w.form.fields.isKey b hb
  have initial : (initialValue b.1).runIn w = (.ok ((model.find? b.1).getD .null), w) := by
    simp [initialValue, runIn_bind, hmodel, Value.entry_map hname]
  unfold statusOf
  rw [runIn_bind_ok (runIn_hasError hname w), runIn_bind_ok (runIn_helpFor hb),
    runIn_bind_ok initial, runIn_bind_ok (runIn_uniqueField? hb)]
  exact ⟨_, rfl, rfl⟩

end Form

/-! ## What is shown -/

/-- What is shown of a help. -/
def FieldStatus.shownHelp (help : Value) : String := if help.truthy then help.text else "invalid"

/-- What is shown of a rule that has failed. -/
def complaint (own fallback : Value) (rule : String) : String :=
  ((saying? own rule).or (saying? fallback rule)).getD "invalid"

variable {own fallback : Value} {rule : String}

theorem ne_empty_of_saying? {source : Value} {s : String} (h : saying? source rule = some s) :
    s ≠ "" := by
  unfold saying? at h
  split at h
  · split at h
    · cases h
    · exact Option.some.inj h ▸ ‹_›
  · cases h

/-- A source that says nothing about a rule is no plain message that counts. -/
theorem truthy_messageOf_of_silent (h : saying? own rule = none) :
    (Form.messageOf own).truthy = false := by
  cases own with
  | str s =>
      have empty : s = "" := by
        by_contra full
        simp [saying?, messageFor, Value.opened, full] at h
      subst empty
      rfl
  | _ => rfl

/-- After a rule has failed the field shows what is said about the rule. -/
theorem shown_resolveMessage {field : Field} (hown : field.errorHelp.IsHelp)
    (hfallback : fallback.IsHelp) (rule : String) :
    FieldStatus.shownHelp (Form.helpOf (some field)
        (entryFor (resolveMessage field.errorHelp fallback rule))) =
      complaint field.errorHelp fallback rule := by
  rw [resolveMessage_of_isHelp hown hfallback, complaint]
  cases said : (saying? field.errorHelp rule).or (saying? fallback rule) with
  | some s =>
      have full : s ≠ "" := by
        rcases Option.or_eq_some_iff.mp said with own | ⟨-, second⟩
        · exact ne_empty_of_saying? own
        · exact ne_empty_of_saying? second
      have counts := truthy_str full
      have recorded : entryFor (.str s) = .str s := if_neg full
      show FieldStatus.shownHelp (Form.helpOf (some field) (entryFor (.str s))) = s
      rw [recorded]
      exact if_pos counts
  | none =>
      have silent := truthy_messageOf_of_silent (Option.or_eq_none_iff.mp said).1
      show FieldStatus.shownHelp (Form.messageOf field.errorHelp) = "invalid"
      rw [FieldStatus.shownHelp, silent]
      rfl

end FormRules
