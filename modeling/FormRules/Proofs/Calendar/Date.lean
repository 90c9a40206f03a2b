/-
# Dates — which days exist

A day of a month exists by the rule that everyone knows: thirty days in April, June, September and
November, twenty-eight or twenty-nine in February, thirty-one elsewhere (`IsDay`).  A day of a week
is found by counting.  Days are numbered from the first one of year 1, a Monday, so that a Thursday
is a day whose number leaves 4 when it is divided by 7.  A week belongs to the year of its Thursday:

    week n of a year    the week of the n-th Thursday of that year

`isWeekDate_iff` says that the numbering of weeks by lengths of years, 53 weeks in some and 52 in
others, is this one.
-/
import FormRules.Calendar.Date
import Mathlib.Tactic.IntervalCases

namespace FormRules.Date

/-! ## Days of months -/

/-- A leap year. -/
def IsLeapYear (year : Nat) : Prop := 4 ∣ year ∧ (100 ∣ year → 400 ∣ year)

/-- A day of the calendar. -/
structure IsDay (year month day : Nat) : Prop where
  years : 1 ≤ year ∧ year ≤ 9999
  months : 1 ≤ month ∧ month ≤ 12
  days : 1 ≤ day ∧ day ≤ 31
  thirty : month ∈ [4, 6, 9, 11] → day ≤ 30
  february : month = 2 → day ≤ 29
  common : month = 2 → ¬ IsLeapYear year → day ≤ 28

theorem isLeap_iff {year : Nat} : isLeap year = true ↔ IsLeapYear year := by
  simp only [isLeap, IsLeapYear, Bool.and_eq_true, Bool.or_eq_true, decide_eq_true_eq, bne_iff_ne,
    ne_eq]
  omega

/-- The last day of a month, by the rule. -/
theorem le_daysInMonth_iff {year month day : Nat} (months : 1 ≤ month ∧ month ≤ 12) :
    day ≤ daysInMonth year month ↔
      day ≤ 31 ∧ (month ∈ [4, 6, 9, 11] → day ≤ 30) ∧ (month = 2 → day ≤ 29) ∧
        (month = 2 → ¬ IsLeapYear year → day ≤ 28) := by
  obtain ⟨low, high⟩ := months
  cases leap : isLeap year with
  | true =>
      have leapYear : IsLeapYear year := isLeap_iff.mp leap
      interval_cases month <;> simp [daysInMonth, leap, leapYear] <;> omega
  | false =>
      have commonYear : ¬ IsLeapYear year := by simp [← isLeap_iff, leap]
      interval_cases month <;> simp [daysInMonth, leap, commonYear] <;> omega

/-- Three numbers are a date if they are those of a day. -/
theorem ofNumbers_isSome_iff {year month day : Nat} :
    (ofNumbers year month day).toOption.isSome = true ↔ IsDay year month day := by
  unfold ofNumbers
  split
  · rename_i outside
    refine iff_of_false Bool.false_ne_true ?_
    rintro ⟨⟨first, last⟩, -, -, -, -, -⟩
    omega
  · rename_i years
    split
    · rename_i outside
      refine iff_of_false Bool.false_ne_true ?_
      rintro ⟨-, ⟨first, last⟩, -, -, -, -⟩
      omega
    · rename_i months
      have within : 1 ≤ month ∧ month ≤ 12 := by omega
      have last : day ≤ daysInMonth year month ↔ _ := le_daysInMonth_iff within
      split
      · rename_i outside
        refine iff_of_false Bool.false_ne_true ?_
        rintro ⟨-, -, ⟨first, most⟩, thirty, february, common⟩
        have := last.mpr ⟨most, thirty, february, common⟩
        omega
      · rename_i days
        obtain ⟨most, thirty, february, common⟩ := last.mp (by omega)
        exact iff_of_true rfl
          ⟨by omega, within, ⟨by omega, most⟩, thirty, february, common⟩

/-! ## Days of weeks -/

/-- The number of days of a year. -/
def yearLength (year : Nat) : Nat := if isLeap year then 366 else 365

theorem yearLength_cases (year : Nat) :
    IsLeapYear year ∧ yearLength year = 366 ∨ ¬ IsLeapYear year ∧ yearLength year = 365 := by
  rw [← isLeap_iff, yearLength]
  cases isLeap year <;> simp

/-- The days before a year are those of the years before it. -/
theorem daysBeforeYear_succ {year : Nat} (h : 1 ≤ year) :
    daysBeforeYear (year + 1) = daysBeforeYear year + yearLength year := by
  obtain ⟨n, rfl⟩ := Nat.exists_eq_add_of_le' h
  simp only [daysBeforeYear, Nat.add_sub_cancel, Nat.succ_div]
  rcases yearLength_cases (n + 1) with ⟨⟨four, hundred⟩, length⟩ | ⟨common, length⟩
  · rw [length, if_pos four]
    by_cases century : 100 ∣ n + 1
    · rw [if_pos century, if_pos (hundred century)]
      omega
    · have : ¬ 400 ∣ n + 1 := by omega
      rw [if_neg century, if_neg this]
      omega
  · have : ¬ 400 ∣ n + 1 := fun h => common ⟨by omega, fun _ => h⟩
    rw [length, if_neg this]
    by_cases four : 4 ∣ n + 1
    · have century : 100 ∣ n + 1 := by
        by_contra other
        exact common ⟨four, fun h => absurd h other⟩
      rw [if_pos four, if_pos century]
      omega
    · have : ¬ 100 ∣ n + 1 := by omega
      rw [if_neg four, if_neg this]
      omega

theorem daysBeforeYear_le {year : Nat} (h : year ≤ 9999) :
    daysBeforeYear year + 365 ≤ daysBeforeYear 10000 := by
  simp only [daysBeforeYear]
  omega

/-- A day of a week, given by the number of the week and its own number in it.  The week is that of
the `week`-th Thursday of the year, and the day is not after the last one of the calendar. -/
def IsWeekDay (year week day : Nat) : Prop :=
  (1 ≤ year ∧ year ≤ 9999) ∧ (1 ≤ day ∧ day ≤ 7) ∧
    ∃ thursday, thursday % 7 = 4 ∧
      (daysBeforeYear year + 7 * (week - 1) < thursday ∧
        thursday ≤ daysBeforeYear year + 7 * week ∧ thursday ≤ daysBeforeYear (year + 1)) ∧
      thursday + day ≤ daysBeforeYear 10000 + 4

/-- A year has 53 Thursdays if it begins with one, or if it is a leap year and has one on its second
day. -/
theorem le_weeksInYear_iff {year week : Nat} :
    week ≤ weeksInYear year ↔
      week ≤ 52 ∨ week = 53 ∧
        (daysBeforeYear year % 7 = 3 ∨ daysBeforeYear year % 7 = 2 ∧ yearLength year = 366) := by
  unfold weeksInYear firstWeekday yearLength
  cases isLeap year with
  | true =>
      simp only [and_true, if_true]
      split <;> omega
  | false =>
      simp only [Bool.false_eq_true, and_false, or_false, if_false]
      split <;> omega

/-- The first Thursday of a year, counted from its first day. -/
def firstThursday (year : Nat) : Nat :=
  let before := daysBeforeYear year
  if before % 7 ≤ 3 then 4 - before % 7 else 11 - before % 7

theorem firstThursday_spec (year : Nat) :
    (1 ≤ firstThursday year ∧ firstThursday year ≤ 7) ∧
      (daysBeforeYear year + firstThursday year) % 7 = 4 := by
  unfold firstThursday
  dsimp only
  split <;> omega

/-- The Thursday of a week of a year. -/
def thursdayOf (year week : Nat) : Nat :=
  daysBeforeYear year + 7 * (week - 1) + firstThursday year

theorem eq_thursdayOf_iff {year week thursday : Nat} :
    thursday % 7 = 4 ∧ daysBeforeYear year + 7 * (week - 1) < thursday ∧
        thursday ≤ daysBeforeYear year + 7 * week ↔
      1 ≤ week ∧ thursday = thursdayOf year week := by
  have first := firstThursday_spec year
  unfold thursdayOf
  omega

/-- The weeks of a year are those whose Thursday it holds. -/
theorem le_weeksInYear_iff_thursdayOf {year week : Nat} (years : 1 ≤ year) (weeks : 1 ≤ week) :
    week ≤ weeksInYear year ↔ thursdayOf year week ≤ daysBeforeYear (year + 1) := by
  obtain ⟨within, isThursday⟩ := firstThursday_spec year
  have on1 : firstThursday year = 1 ↔ daysBeforeYear year % 7 = 3 := by omega
  have on2 : firstThursday year = 2 ↔ daysBeforeYear year % 7 = 2 := by omega
  rw [le_weeksInYear_iff, daysBeforeYear_succ years, thursdayOf, ← on1, ← on2]
  -- 52 weeks and a day are in every year, and a day more in a leap year
  rcases yearLength_cases year with ⟨-, length⟩ | ⟨-, length⟩
  · omega
  · omega

/-- Of the weeks of all years only the last one is cut short, after its Friday. -/
theorem day_le_iff {year week day : Nat} (years : year ≤ 9999) (days : day ≤ 7)
    (inYear : thursdayOf year week ≤ daysBeforeYear (year + 1)) :
    thursdayOf year week + day ≤ daysBeforeYear 10000 + 4 ↔
      ¬ (year = 9999 ∧ week = 52 ∧ 5 < day) := by
  have all : daysBeforeYear 10000 = 3652059 := rfl
  rcases Nat.eq_or_lt_of_le years with rfl | earlier
  · have thursday : thursdayOf 9999 week = 3651694 + 7 * (week - 1) + 7 := rfl
    have next : daysBeforeYear (9999 + 1) = 3652059 := rfl
    omega
  · have next : daysBeforeYear (year + 1) + 365 ≤ daysBeforeYear 10000 := daysBeforeYear_le earlier
    omega

/-- **Weeks are numbered by their Thursdays.** -/
theorem isWeekDate_iff {year week day : Nat} :
    isWeekDate year week day = true ↔ IsWeekDay year week day := by
  have unfolded : isWeekDate year week day = true ↔
      (1 ≤ year ∧ year ≤ 9999) ∧ (1 ≤ week ∧ week ≤ weeksInYear year) ∧ (1 ≤ day ∧ day ≤ 7) ∧
        ¬ (year = 9999 ∧ week = 52 ∧ 5 < day) := by
    simp only [isWeekDate, Bool.and_eq_true, decide_eq_true_eq, Bool.not_eq_true',
      Bool.and_eq_false_iff, beq_eq_false_iff_ne, decide_eq_false_iff_not]
    omega
  rw [unfolded, IsWeekDay]
  constructor
  · rintro ⟨years, ⟨first, weeks⟩, days, inCalendar⟩
    have inYear := (le_weeksInYear_iff_thursdayOf years.1 first).mp weeks
    obtain ⟨isThursday, after, within⟩ := eq_thursdayOf_iff.mpr ⟨first, rfl⟩
    exact ⟨years, days, thursdayOf year week, isThursday, ⟨after, within, inYear⟩,
      (day_le_iff years.2 days.2 inYear).mpr inCalendar⟩
  · rintro ⟨years, days, thursday, isThursday, ⟨after, within, inYear⟩, inCalendar⟩
    obtain ⟨first, rfl⟩ := eq_thursdayOf_iff.mp ⟨isThursday, after, within⟩
    exact ⟨years, ⟨first, (le_weeksInYear_iff_thursdayOf years.1 first).mpr inYear⟩, days,
      (day_le_iff years.2 days.2 inYear).mp inCalendar⟩

end FormRules.Date
