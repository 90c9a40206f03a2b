/-
# Numerals — how a whole number in plain digits is read

The reader of integers takes digits of any script, underscores and white space.  A number in plain
digits with at most a sign in front uses none of that, and reading it fails in one way only:

    at most 4300 digits      the number
    more than 4300 digits    too many digits, with their count

`readInt_of_isPlain` says this; a sign is no digit.
-/
import FormRules.Number.Numeral

namespace FormRules.Numeral

/-- Plain digits, at least one, with at most a sign in front. -/
def IsPlain (s : List Char) : Prop :=
  ∃ sign digits, s = sign ++ digits ∧ (sign = [] ∨ sign = ['-'] ∨ sign = ['+']) ∧ digits ≠ [] ∧
    ∀ c ∈ digits, c.isDigit = true

/-- The number of plain digits in a text. -/
def digitCount (s : List Char) : Nat := s.countP Char.isDigit

theorem toNat_of_isDigit {c : Char} (h : c.isDigit = true) : 48 ≤ c.toNat ∧ c.toNat ≤ 57 := by
  simpa [Char.isDigit, ← UInt32.toNat_inj, UInt32.le_iff_toNat_le] using h

/-- A plain digit is no other character of a numeral. -/
theorem ne_of_isDigit {c d : Char} (h : c.isDigit = true) (hd : d.isDigit = false) : c ≠ d := by
  rintro rfl
  exact Bool.noConfusion (h.symm.trans hd)

theorem not_isBlank_of_isDigit {c : Char} (h : c.isDigit = true) : isBlank c = false := by
  have range := toNat_of_isDigit h
  have notSpace : c ≠ ' ' := ne_of_isDigit h (by decide)
  rw [isBlank, if_pos (by omega)]
  simp only [beq_eq_false_iff_ne.mpr notSpace, Bool.or_false, Bool.and_eq_false_iff,
    decide_eq_false_iff_not]
  omega

theorem exists_digitValue?_of_isDigit {c : Char} (h : c.isDigit = true) :
    ∃ d, Unicode.digitValue? c = some d := by
  have range := toNat_of_isDigit h
  exact ⟨c.toNat - 48, by rw [Unicode.digitValue?, if_pos (by omega), if_pos h]⟩

/-- Plain digits are read to their end. -/
theorem digitsFrom_of_digits {digits : List Char} (h : ∀ c ∈ digits, c.isDigit = true)
    (afterDigit : Bool) (some : afterDigit = true ∨ digits ≠ []) :
    ∃ ds, digitsFrom afterDigit digits = .some (ds, []) ∧ ds.length = digits.length := by
  induction digits generalizing afterDigit with
  | nil =>
      obtain rfl : afterDigit = true := some.resolve_right (absurd rfl)
      exact ⟨[], rfl, rfl⟩
  | cons c rest ih =>
      obtain ⟨here, later⟩ := List.forall_mem_cons.mp h
      obtain ⟨d, value⟩ := exists_digitValue?_of_isDigit here
      obtain ⟨ds, read, length⟩ := ih later true (.inl rfl)
      refine ⟨d :: ds, ?_, by simp [length]⟩
      rw [digitsFrom, if_neg (ne_of_isDigit here (by decide)), value]
      simp [read]

/-- Neither white space nor a sign is taken off a digit. -/
theorem splitSign_of_isPlain {sign : List Char} (signs : sign = [] ∨ sign = ['-'] ∨ sign = ['+'])
    {c : Char} (h : c.isDigit = true) (rest : List Char) :
    ∃ negative, splitSign ((sign ++ c :: rest).dropWhile isBlank) = (negative, c :: rest) := by
  rcases signs with rfl | rfl | rfl
  · refine ⟨false, ?_⟩
    rw [List.nil_append, List.dropWhile_cons_of_neg (by simp [not_isBlank_of_isDigit h]),
      splitSign]
    · rintro _ ⟨⟩
      exact Bool.noConfusion h
    · rintro _ ⟨⟩
      exact Bool.noConfusion h
  · exact ⟨true, rfl⟩
  · exact ⟨false, rfl⟩

/-- **A number in plain digits** is read unless it has too many of them. -/
theorem readInt_of_isPlain {text : String} (h : IsPlain text.toList) :
    if digitLimit < digitCount text.toList then
      readInt text = .error (.tooManyDigits (digitCount text.toList))
    else ∃ n, readInt text = .ok n := by
  obtain ⟨sign, digits, whole, signs, some, plain⟩ := h
  obtain ⟨first, rest, rfl⟩ := List.exists_cons_of_ne_nil some
  obtain ⟨negative, split⟩ := splitSign_of_isPlain signs (plain first List.mem_cons_self) rest
  obtain ⟨ds, read, length⟩ := digitsFrom_of_digits plain false (.inr some)
  have count : digitCount text.toList = ds.length := by
    have none : sign.countP Char.isDigit = 0 := by
      rcases signs with rfl | rfl | rfl <;> decide
    rw [digitCount, whole, List.countP_append, none, Nat.zero_add, List.countP_eq_length.mpr plain,
      length]
  unfold readInt
  rw [count, whole, split]
  dsimp only
  rw [read]
  dsimp only
  split
  · rfl
  · exact ⟨_, if_pos rfl⟩

end FormRules.Numeral
