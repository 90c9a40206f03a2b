/-
# Dates — which texts pass the rule about dates

The rule asks for a text that can be read as a day, and more can be read than a form is likely to
ask for.  A date with hyphens between year, month and day passes exactly if there is such a day.  So
do dates without hyphens, with anything of two bytes behind them, and days that are given by a week:

    IsCalendarDate    2024-01-05
    IsOtherDate       20240105    20240105??    2024-W01    2024W01    2024-W01-5    2024W015

No text is in both.
-/
import FormRules.Proofs.Calendar.Layout
import FormRules.Proofs.Predicate.Standard

namespace FormRules.Date

/-! ## Layouts -/

/-- A day with hyphens between its year, its month and its number in the month. -/
def IsCalendarDate (s : List Char) : Prop :=
  ∃ year month day y m d, s = y ++ '-' :: (m ++ '-' :: d) ∧
    IsNumber 4 year y ∧ IsNumber 2 month m ∧ IsNumber 2 day d ∧ IsDay year month day

/-- The other layouts.  Those without hyphens may go on for two bytes that are not read. -/
inductive IsOtherDate : List Char → Prop
  | compact {year month day : Nat} {y m d rest : List Char} :
      IsNumber 4 year y → IsNumber 2 month m → IsNumber 2 day d → IsDay year month day →
      IsUnread false rest → IsOtherDate (y ++ (m ++ (d ++ rest)))
  | week {year week : Nat} {y w : List Char} (separated : Bool) :
      IsNumber 4 year y → IsNumber 2 week w → IsWeekDay year week 1 →
      IsOtherDate (y ++ (hyphen separated ++ 'W' :: w))
  | weekDay {year week day : Nat} {y w d : List Char} :
      IsNumber 4 year y → IsNumber 2 week w → IsNumber 1 day d → IsWeekDay year week day →
      IsOtherDate (y ++ '-' :: 'W' :: (w ++ '-' :: d))
  | compactWeekDay {year week day : Nat} {y w d rest : List Char} :
      IsNumber 4 year y → IsNumber 2 week w → IsNumber 1 day d → IsWeekDay year week day →
      IsUnread false rest → IsOtherDate (y ++ 'W' :: (w ++ (d ++ rest)))

theorem isUnread_true_iff {rest : List Char} : IsUnread true rest ↔ rest = [] := by
  simp [IsUnread]

/-- A text is read as a day if it is in one of the layouts. -/
theorem isReadable_iff_layout {s : String} :
    isReadable s = true ↔ IsCalendarDate s.toList ∨ IsOtherDate s.toList := by
  rw [isReadable_iff]
  constructor
  · rintro ⟨year, y, separated, t, rest, split, isYear, follows, unread⟩
    rw [split]
    cases follows with
    | @day month day m d _ isMonth isDay real =>
        cases separated with
        | true =>
            obtain rfl := isUnread_true_iff.mp unread
            rw [List.append_nil]
            exact .inl ⟨year, month, day, y, m, d, rfl, isYear, isMonth, isDay, real⟩
        | false =>
            change _ ∨ IsOtherDate (y ++ (m ++ (d ++ rest)))
            exact .inr (.compact isYear isMonth isDay real unread)
    | week isWeek real => exact .inr (.week separated isYear isWeek real)
    | @weekDay week day w d _ isWeek isDay real =>
        cases separated with
        | true =>
            obtain rfl := isUnread_true_iff.mp unread
            rw [List.append_nil]
            exact .inr (.weekDay isYear isWeek isDay real)
        | false =>
            change _ ∨ IsOtherDate (y ++ 'W' :: (w ++ (d ++ rest)))
            exact .inr (.compactWeekDay isYear isWeek isDay real unread)
  · have none (separated : Bool) : IsUnread separated [] := .inl rfl
    rintro (⟨year, month, day, y, m, d, split, isYear, isMonth, isDay, real⟩ | h)
    · refine ⟨year, y, true, _, [], ?_, isYear, .day isMonth isDay real, none true⟩
      rw [split, List.append_nil]
      rfl
    · generalize s.toList = chars at h
      cases h with
      | compact isYear isMonth isDay real unread =>
          exact ⟨_, _, false, _, _, rfl, isYear, .day isMonth isDay real, unread⟩
      | week separated isYear isWeek real =>
          exact ⟨_, _, separated, _, _, rfl, isYear, .week isWeek real, none separated⟩
      | weekDay isYear isWeek isDay real =>
          refine ⟨_, _, true, _, [], ?_, isYear, .weekDay isWeek isDay real, none true⟩
          rw [List.append_nil]
          rfl
      | compactWeekDay isYear isWeek isDay real unread =>
          exact ⟨_, _, false, _, _, rfl, isYear, .weekDay isWeek isDay real, unread⟩

example : isReadable "20240229" = true ∧ isReadable "2024-W09-4" = true ∧
    isReadable "2023-02-29" = false := by
  decide

/-- Behind the year of a calendar date there is a hyphen, and a digit behind that. -/
theorem IsCalendarDate.behind {y t : List Char} (h : IsCalendarDate (y ++ t))
    (four : y.length = 4) : ∃ c rest, t = '-' :: c :: rest ∧ c.isDigit = true := by
  obtain ⟨_, _, _, y', m, d, split, isYear, isMonth, -, -⟩ := h
  obtain ⟨c, rest, rfl, digit⟩ := isMonth.head
  have same := (List.append_inj split (four.trans isYear.length.symm)).2
  exact ⟨c, _, same, digit⟩

/-- A calendar date is in no other layout. -/
theorem IsOtherDate.not_isCalendarDate {s : List Char} (h : IsOtherDate s) :
    ¬ IsCalendarDate s := by
  intro calendar
  cases h with
  | compact isYear isMonth _ _ _ =>
      obtain ⟨c, rest, same, -⟩ := calendar.behind isYear.length
      exact isMonth.append_ne rfl _ _ same
  | week separated isYear _ _ =>
      obtain ⟨c, rest, same, digit⟩ := calendar.behind isYear.length
      cases separated with
      | true =>
          cases same
          cases digit
      | false => cases same
  | weekDay isYear _ _ _ =>
      obtain ⟨c, rest, same, digit⟩ := calendar.behind isYear.length
      obtain rfl := (List.cons.inj (List.cons.inj same).2).1
      cases digit
  | compactWeekDay isYear _ _ _ _ =>
      obtain ⟨c, rest, same, -⟩ := calendar.behind isYear.length
      cases (List.cons.inj same).1

end FormRules.Date

namespace FormRules.StandardRule

/-- **Dates.**  Every text is decided: it passes exactly if it names an existing day, as a calendar
date or in another layout; no text does both. -/
theorem isDate_layouts (text : String) :
    ∃ b, isDate.test (.str text) [] = .ok (.bool b) ∧
      (b = true ↔ Date.IsCalendarDate text.toList ∨ Date.IsOtherDate text.toList) ∧
      ¬ (Date.IsCalendarDate text.toList ∧ Date.IsOtherDate text.toList) := by
  have tested : isDate.test (.str text) [] = .ok (.bool (Date.isReadable text)) :=
    test_str isDate text []
  exact ⟨_, tested, Date.isReadable_iff_layout, fun both => both.2.not_isCalendarDate both.1⟩

end FormRules.StandardRule
