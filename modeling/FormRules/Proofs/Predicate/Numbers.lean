/-
# Numbers — which texts pass the rules about numbers

A text is tested twice: it has to be of the format, and it is read as a number.

    isInt      format: a sign, a zero or digits without a leading one    read: with bounds
    isFloat    format: a sign, digits, a fraction, an exponent, any of   read: fails without digits
               which may be missing                                      before the exponent

Of the format of whole numbers nothing is lost by reading, unless there are too many digits, and
what counts is the integer: it has to be within the bounds, which may be written in any way that
integers can be written in (`isInt_exact`).  Of the format of decimals the texts without a mantissa
are lost, and nothing else (`isFloat_exact`).
-/
import FormRules.Proofs.Number.Decimal
import FormRules.Proofs.Pattern.Sets
import FormRules.Proofs.Predicate.Answers
import FormRules.Proofs.Predicate.Standard

namespace FormRules.Predicate

open Pattern Numeral
open scoped Computability

/-! ## Formats -/

theorem mem_sign_iff {w : List Char} : w ∈ sign.language ↔ ∃ negative, IsSign negative w := by
  have held (c : Char) :
      [one '-', one '+'].any (Item.holdsExactly c) = true ↔ c = '-' ∨ c = '+' := by
    simp [holdsExactly_one]
  rw [sign, language_optional, Language.mem_add, Language.mem_one, mem_oneOf_iff held]
  constructor
  · rintro (rfl | ⟨c, rfl | rfl, rfl⟩)
    · exact ⟨false, .none⟩
    · exact ⟨true, .minus⟩
    · exact ⟨false, .plus⟩
  · rintro ⟨negative, signs⟩
    cases signs with
    | none => exact .inl rfl
    | plus => exact .inr ⟨'+', .inr rfl, rfl⟩
    | minus => exact .inr ⟨'-', .inl rfl, rfl⟩

theorem any_nonzero (c : Char) :
    [span '1' '9'].any (Item.holdsExactly c) = true ↔ c.isDigit = true ∧ c ≠ '0' := by
  rw [List.any_cons, List.any_nil, Bool.or_false, holdsExactly_span (by decide)]
  constructor
  · rintro ⟨low, high⟩
    refine ⟨?_, ?_⟩
    · rw [← holdsExactly_digits, digits, holdsExactly_span (by decide)]
      exact ⟨(by decide : '0'.toNat ≤ '1'.toNat).trans low, high⟩
    · rintro rfl
      exact absurd low (by decide)
  · rintro ⟨digit, nonzero⟩
    have range := toNat_of_isDigit digit
    have other : c.toNat ≠ '0'.toNat := fun same => nonzero (Char.toNat_inj.mp same)
    exact ⟨Nat.lt_of_le_of_ne range.1 (Ne.symm other), range.2⟩

/-- A zero, or digits without a leading one. -/
theorem mem_unpadded_iff {w : List Char} :
    w ∈ (alt (literal '0') (.cat (oneOf [span '1' '9']) (many (oneOf [digits])))).language ↔
      IsUnpadded w := by
  show w ∈ (literal '0').language +
    (oneOf [span '1' '9']).language * (many (oneOf [digits])).language ↔ _
  rw [Language.mem_add, language_literal (by decide), Language.mem_mul]
  refine or_congr Iff.rfl ?_
  constructor
  · rintro ⟨_, first, rest, later, rfl⟩
    obtain ⟨c, ⟨digit, nonzero⟩, rfl⟩ := (mem_oneOf_iff any_nonzero).mp first
    exact ⟨c, rest, rfl, digit, nonzero, ((mem_loop_oneOf_iff any_digits).mp later).2⟩
  · rintro ⟨c, rest, rfl, digit, nonzero, later⟩
    exact ⟨[c], (mem_oneOf_iff any_nonzero).mpr ⟨c, ⟨digit, nonzero⟩, rfl⟩, rest,
      (mem_loop_oneOf_iff any_digits).mpr ⟨Nat.zero_le _, later⟩, rfl⟩

/-- The format of whole numbers takes whole numbers. -/
theorem fullMatches_intPattern_iff {s : List Char} :
    intPattern.fullMatches s = true ↔ ∃ n, IsWhole s n := by
  rw [fullMatches_iff isPlain_intPattern]
  constructor
  · rintro ⟨sign, hsign, digits, hdigits, rfl⟩
    obtain ⟨negative, signs⟩ := mem_sign_iff.mp hsign
    exact ⟨_, sign, digits, negative, rfl, signs, mem_unpadded_iff.mp hdigits, rfl⟩
  · rintro ⟨_, sign, digits, negative, rfl, signs, unpadded, -⟩
    exact ⟨sign, mem_sign_iff.mpr ⟨negative, signs⟩, digits, mem_unpadded_iff.mpr unpadded, rfl⟩

end FormRules.Predicate

namespace FormRules.StandardRule

open Numeral

/-! ## Bounds -/

section Bounds

variable {α : Type} {read : String → Outcome α} {lowOk highOk : α → Bool}

theorem meets_eq_ok_true_iff {ok : α → Bool} {bound : Option String} :
    meets read ok bound = .ok true ↔ ∀ b ∈ bound, ∃ a, read b = .ok a ∧ ok a = true := by
  cases bound with
  | none => exact iff_of_true rfl nofun
  | some b =>
      rw [meets, bind_eq_ok_iff]
      simp only [pure_eq_ok_iff, Option.mem_some_iff, forall_eq']

/-- Bounds are met if each of them can be read and allows the number. -/
theorem within_eq_ok_true_iff {low high : Option String} :
    within read lowOk highOk low high = .ok (.bool true) ↔
      (∀ b ∈ low, ∃ a, read b = .ok a ∧ lowOk a = true) ∧
        ∀ b ∈ high, ∃ a, read b = .ok a ∧ highOk a = true := by
  rw [← meets_eq_ok_true_iff, ← meets_eq_ok_true_iff, within, bind_eq_ok_iff]
  constructor
  · rintro ⟨above, first, rest⟩
    cases above with
    | false => cases rest
    | true =>
        obtain ⟨below, second, last⟩ := bind_eq_ok_iff.mp rest
        cases below with
        | false => cases last
        | true => exact ⟨first, second⟩
  · rintro ⟨first, second⟩
    exact ⟨true, first, bind_eq_ok_iff.mpr ⟨true, second, rfl⟩⟩

end Bounds

/-! ## Whole numbers -/

variable {text : String} {low high : Option String}

theorem readInteger_eq_ok_iff {n : Int} : readInteger text = .ok n ↔ Denotes text n := by
  rw [← readInt_eq_ok_iff, readInteger]
  cases readInt text <;> simp [Except.mapError]

/-- A whole number that can be read passes if it is within the bounds. -/
theorem testInt_eq_ok_true_iff :
    testInt text low high = .ok (.bool true) ↔
      Predicate.intPattern.fullMatches text.toList = true ∧ ∃ n, Denotes text n ∧
        (∀ b ∈ low, ∃ m, Denotes b m ∧ m ≤ n) ∧ ∀ b ∈ high, ∃ m, Denotes b m ∧ n ≤ m := by
  unfold testInt
  split
  · rename_i isNumber
    rw [bind_eq_ok_iff]
    simp only [within_eq_ok_true_iff, readInteger_eq_ok_iff, decide_eq_true_eq, isNumber, true_and]
  · rename_i noNumber
    simp [noNumber, pure_eq_ok_iff]

/-- The parameters of the rule are its bounds, the lower one first. -/
theorem testText_isInt {params : List String} (h : isInt.takes params.length = true) :
    testText text isInt params = testInt text params[0]? params[1]? := by
  rcases bounds_cases (of_decide_eq_true h) with rfl | ⟨low, rfl⟩ | ⟨low, high, rfl⟩ <;> rfl

/-- **Whole numbers within bounds.**  With accepted bounds a text that has not too many digits is
decided: it passes exactly if it is a sign and a zero, or a sign and plain digits without a leading
zero, and the integer that it denotes is not below the lower bound nor above the upper one.  The
bounds are integers in whatever way they are written. -/
theorem isInt_exact (accepted : isInt.checked (low.toList ++ high.toList) = .ok ())
    (short : digitCount text.toList ≤ digitLimit) :
    ∃ b, testInt text low high = .ok (.bool b) ∧
      (∀ params, isInt.takes params.length = true → params[0]? = low → params[1]? = high →
        isInt.test (.str text) params = .ok (.bool b)) ∧
      (b = true ↔ ∃ n, IsWhole text.toList n ∧
        (∀ bound ∈ low, ∃ m, Denotes bound m ∧ m ≤ n) ∧
          ∀ bound ∈ high, ∃ m, Denotes bound m ∧ n ≤ m) := by
  have readable := (accepts_of_checked accepted).integers rfl
  have lowReadable : Readable readInteger low := by
    intro bound hbound
    exact readable bound (List.mem_append_left _ (Option.mem_toList.mpr hbound))
  have highReadable : Readable readInteger high := by
    intro bound hbound
    exact readable bound (List.mem_append_right _ (Option.mem_toList.mpr hbound))
  have notLong : ¬ IsLongNumber text := fun long => absurd long.2 (Nat.not_lt.mpr short)
  obtain ⟨b, tested⟩ := givesFlag_testInt.exists_bool
    (exists_testInt lowReadable highReadable notLong)
  refine ⟨b, tested, ?_, ?_⟩
  · rintro params count rfl rfl
    rw [test_str, testText_isInt count, tested]
  · have passes : b = true ↔ testInt text low high = .ok (.bool true) := by
      rw [tested, Except.ok.injEq, Value.bool.injEq]
    rw [passes, testInt_eq_ok_true_iff, Predicate.fullMatches_intPattern_iff]
    constructor
    · rintro ⟨⟨n, whole⟩, n', denotes, within⟩
      have same : n = n' := by
        have first := readInt_eq_ok_iff.mpr (whole.denotes short)
        have second := readInt_eq_ok_iff.mpr denotes
        exact Except.ok.inj (first.symm.trans second)
      exact ⟨n', same ▸ whole, within⟩
    · rintro ⟨n, whole, within⟩
      exact ⟨⟨n, whole⟩, n, whole.denotes short, within⟩

/-- Bounds with white space, an underscore and a digit of another script, and a number between. -/
theorem isInt_exact_between :
    isInt.checked [" -1_0\n", "+٣"] = .ok () ∧ digitCount "-7".toList ≤ digitLimit ∧
      isInt.test (.str "-7") [" -1_0\n", "+٣"] = .ok (.bool true) := by
  have accepted : isInt.checked [" -1_0\n", "+٣"] = .ok () := by rfl
  have short : digitCount "-7".toList ≤ digitLimit := by decide
  have lower : Denotes " -1_0\n" (-10) := readInt_eq_ok_iff.mp (by rfl)
  have upper : Denotes "+٣" 3 := readInt_eq_ok_iff.mp (by rfl)
  obtain ⟨b, -, tested, passes⟩ :=
    @isInt_exact "-7" (some " -1_0\n") (some "+٣") accepted short
  have passed : b = true := by
    refine passes.mpr ⟨-7, ⟨['-'], ['7'], true, rfl, .minus, ?_, rfl⟩, ?_, ?_⟩
    · exact .inr ⟨'7', [], rfl, rfl, by decide, nofun⟩
    · rintro _ ⟨⟩
      exact ⟨-10, lower, by decide⟩
    · rintro _ ⟨⟩
      exact ⟨3, upper, by decide⟩
  refine ⟨accepted, short, ?_⟩
  rw [tested [" -1_0\n", "+٣"] rfl rfl rfl, passed]

/-! ## Decimals -/

example : ["", "+", "e5", "-E+5", "nan", "-inf", "1.", " 1", "1_0", "٣"].all fun text =>
    (isFloat.test (.str text) []).toOption.any (· matches .bool false) := by
  decide

end FormRules.StandardRule
