/-
# Details — what is recorded for an error

An error may come with a detail for the message.  What is recorded for it is one of three things, or
nothing at all:

    detail                                              recorded
    a text that is not empty                            the text
    counts, is no flag, and can be written              its text
    counts, and holds an integer of too many digits     nothing: recording fails
    any other                                           `true`

The third line needs a detail that is no text: the message in the result of a check is a text or
nothing, so the result of a check is always recorded (`errorValue_messageOf`).  Only the answer of
an override of a whole pass, or the client itself, can hand over such a detail.
-/
import FormRules.Form.Validation
import FormRules.Proofs.Outcome
import FormRules.Proofs.Value.Text

namespace FormRules

namespace Value

/-- A detail that would have to be written and cannot be. -/
def IsMute (v : Value) : Prop := v.truthy = true ∧ v.holdsLongInteger = true

instance (v : Value) : Decidable v.IsMute := inferInstanceAs (Decidable (_ ∧ _))

/-- What may be recorded: no error, an error, or a message that says something. -/
def IsEntry (v : Value) : Prop := v = .bool false ∨ v = .bool true ∨ ∃ s, s ≠ "" ∧ v = .str s

/-- What is recorded for a name that an answer gives a detail for. -/
def asError : Value → Value
  | .str s => if s = "" then .bool true else .str s
  | .bool _ => .bool true
  | v => if v.truthy then .str v.text else .bool true

theorem truthy_str_iff {s : String} : (Value.str s).truthy = true ↔ s ≠ "" := bne_iff_ne

end Value

namespace Form

variable {isError : Bool} {detail stored said result : Value} {f : Failure}

/-! ## What a detail says -/

theorem saidBy_of_isMute (h : detail.IsMute) : saidBy detail = .error .longInteger := by
  obtain ⟨counts, long⟩ := h
  unfold saidBy
  split
  · cases long
  · cases long
  · rw [if_pos counts, Value.writable, if_pos long]
    rfl

theorem exists_saidBy (h : ¬ detail.IsMute) : ∃ said, saidBy detail = .ok said := by
  unfold saidBy
  split
  · exact ⟨_, rfl⟩
  · exact ⟨_, rfl⟩
  · split
    · rename_i counts
      rw [Value.writable, if_neg fun long => h ⟨counts, long⟩]
      exact ⟨_, rfl⟩
    · exact ⟨_, rfl⟩

/-- What is said and counts is a text that is not empty, or `true`. -/
theorem isEntry_of_saidBy (h : saidBy detail = .ok said) (counts : said.truthy = true) :
    said.IsEntry := by
  unfold saidBy at h
  split at h
  · obtain rfl := Except.ok.inj h
    exact .inr (.inr ⟨_, Value.truthy_str_iff.mp counts, rfl⟩)
  · obtain rfl := Except.ok.inj h
    exact .inr (.inl (congrArg Value.bool counts))
  · split at h
    · obtain ⟨-, -, h⟩ := bind_eq_ok_iff.mp h
      obtain rfl := Except.ok.inj h
      exact .inr (.inr ⟨_, Value.truthy_str_iff.mp counts, rfl⟩)
    · rename_i empty
      obtain rfl := Except.ok.inj h
      exact absurd counts empty

/-! ## What is recorded -/

/-- Recording fails for details only that cannot be written. -/
theorem errorValue_eq_error_iff :
    errorValue isError detail = .error f ↔
      f = .longInteger ∧ isError = true ∧ detail.IsMute := by
  cases isError with
  | false => simp [errorValue]
  | true =>
      by_cases mute : detail.IsMute
      · have fails : errorValue true detail = .error .longInteger := by
          show (saidBy detail >>= _) = _
          rw [saidBy_of_isMute mute, error_bind]
        simp [fails, mute, eq_comm]
      · obtain ⟨said, spoken⟩ := exists_saidBy mute
        have recorded : errorValue true detail = .ok (if said.truthy then said else .bool true) := by
          show (saidBy detail >>= _) = _
          rw [spoken, ok_bind]
          rfl
        simp [recorded, mute]

theorem errorValue_of_isMute (h : detail.IsMute) : errorValue true detail = .error .longInteger :=
  errorValue_eq_error_iff.mpr ⟨rfl, rfl, h⟩

theorem exists_errorValue (h : isError = true → ¬ detail.IsMute) :
    ∃ stored, errorValue isError detail = .ok stored := by
  cases recorded : errorValue isError detail with
  | ok stored => exact ⟨stored, rfl⟩
  | error f =>
      obtain ⟨-, error, mute⟩ := errorValue_eq_error_iff.mp recorded
      exact absurd mute (h error)

/-- Only that there is no error is recorded as `false`. -/
theorem ne_false_iff_of_errorValue (h : errorValue isError detail = .ok stored) :
    stored ≠ .bool false ↔ isError = true := by
  cases isError with
  | false =>
      obtain rfl := Except.ok.inj h
      simp
  | true =>
      obtain ⟨said, -, h⟩ := bind_eq_ok_iff.mp h
      obtain rfl := Except.ok.inj h
      refine iff_of_true ?_ rfl
      split
      · rename_i counts
        rintro rfl
        cases counts
      · exact nofun

theorem isEntry_of_errorValue (h : errorValue isError detail = .ok stored) : stored.IsEntry := by
  cases isError with
  | false =>
      obtain rfl := Except.ok.inj h
      exact .inl rfl
  | true =>
      obtain ⟨said, spoken, h⟩ := bind_eq_ok_iff.mp h
      obtain rfl := Except.ok.inj h
      split
      · exact isEntry_of_saidBy spoken ‹_›
      · exact .inr (.inl rfl)

/-- The detail of an error is recorded as it says, if it is complete and can be written. -/
theorem errorValue_true (complete : detail.IsComplete) (written : ¬ detail.IsMute) :
    errorValue true detail = .ok detail.asError := by
  have spoken (noText : detail.isStr = false) : (Value.str detail.text).truthy = true :=
    Value.truthy_str_iff.mpr (Value.text_ne_empty complete noText)
  have short (counts : detail.truthy = true) : detail.writable = .ok () :=
    if_neg fun long => written ⟨counts, long⟩
  unfold errorValue Value.asError
  by_cases counts : detail.truthy = true <;> cases detail with
  | str s =>
      by_cases empty : s = "" <;>
        simp [saidBy, Value.truthy, empty, ok_bind, pure, Except.pure]
  | bool b => cases b <;> simp [saidBy, Value.truthy, ok_bind, pure, Except.pure]
  | _ => simp_all [saidBy, spoken rfl, ok_bind, pure, Except.pure]

theorem eq_asError_of_errorValue (complete : detail.IsComplete)
    (h : errorValue true detail = .ok stored) : stored = detail.asError := by
  have written : ¬ detail.IsMute := by
    intro mute
    rw [errorValue_of_isMute mute] at h
    cases h
  exact Except.ok.inj (h.symm.trans (errorValue_true complete written))

end Form

/-! ## Results of checks -/

/-- The entry for a result: `false` for the result `true`, a text that is not empty as it is, and
`true` for anything else. -/
def entryFor : Value → Value
  | .bool true => .bool false
  | .str s => if s = "" then .bool true else .str s
  | _ => .bool true

/-- The result of a check can always be recorded. -/
theorem errorValue_messageOf (result : Value) :
    Form.errorValue (!result.isTrue) (Form.messageOf result) = .ok (entryFor result) := by
  unfold entryFor
  split
  · rfl
  · rename_i s
    show (.ok (if (Value.str s).truthy then Value.str s else .bool true) : Outcome Value) = _
    by_cases blank : s = ""
    · rw [if_pos blank, blank]
      rfl
    · rw [if_neg blank, if_pos (Value.truthy_str_iff.mpr blank)]
  · rename_i notTrue notText
    have fails : result.isTrue = false := Bool.eq_false_iff.mpr (notTrue ∘ Value.isTrue_iff.mp)
    have silent : Form.messageOf result = .null := by
      unfold Form.messageOf
      split
      · rename_i isText
        cases result <;> first | exact (notText _ rfl).elim | cases isText
      · rfl
    rw [fails, silent]
    rfl

theorem entryFor_ne_false_iff {result : Value} :
    entryFor result ≠ .bool false ↔ result.isTrue = false := by
  rw [Form.ne_false_iff_of_errorValue (errorValue_messageOf result), Bool.not_eq_true']

end FormRules
