/-!
# Calendar dates

Days of the Gregorian calendar, extended to the years 1 to 9999, and the week numbering in which
week 1 is the week, from Monday on, that holds the year's first Thursday.
-/
namespace FormRules

/-- A day by year, month and day of the month. -/
structure Date where
  year : Nat
  month : Nat
  day : Nat
deriving DecidableEq, Repr, Inhabited

namespace Date

def isLeap (year : Nat) : Bool := year % 4 = 0 && (year % 100 != 0 || year % 400 = 0)

/-- The number of days of a month; there are none in a month that does not exist. -/
def daysInMonth (year month : Nat) : Nat :=
  match month with
  | 1 | 3 | 5 | 7 | 8 | 10 | 12 => 31
  | 4 | 6 | 9 | 11 => 30
  | 2 => if isLeap year then 29 else 28
  | _ => 0

/-- What is wrong with the numbers of a date. -/
inductive Fault where
  | year (year : Nat)
  | month
  | day
deriving DecidableEq, Repr

def Fault.message : Fault → String
  | .year y => "year " ++ toString y ++ " is out of range"
  | .month => "month must be in 1..12"
  | .day => "day is out of range for month"

/-- The date of three numbers; the first one out of range is reported. -/
def ofNumbers (year month day : Nat) : Except Fault Date :=
  if year < 1 ∨ 9999 < year then .error (.year year)
  else if month < 1 ∨ 12 < month then .error .month
  else if day < 1 ∨ daysInMonth year month < day then .error .day
  else .ok ⟨year, month, day⟩

/-- The number of days before the first of January of a year, counted from year 1. -/
def daysBeforeYear (year : Nat) : Nat :=
  let y := year - 1
  y * 365 + y / 4 - y / 100 + y / 400

/-- The weekday of the first of January, Monday being 0. -/
def firstWeekday (year : Nat) : Nat := daysBeforeYear year % 7

/-- The number of weeks of a year: 53 if it has 53 Thursdays, otherwise 52. -/
def weeksInYear (year : Nat) : Nat :=
  if firstWeekday year = 3 ∨ (firstWeekday year = 2 ∧ isLeap year) then 53 else 52

/-- Whether a day of a numbered week exists; the last days of the last week of year 9999 lie
beyond the calendar. -/
def isWeekDate (year week day : Nat) : Bool :=
  1 ≤ year && year ≤ 9999 && 1 ≤ week && week ≤ weeksInYear year && 1 ≤ day && day ≤ 7 &&
    !(year == 9999 && week == 52 && 5 < day)

/-- A number of exactly `width` ASCII digits at the front of a text, and the rest. -/
def number? : (width : Nat) → (value : Nat) → List Char → Option (Nat × List Char)
  | 0, value, s => some (value, s)
  | _ + 1, _, [] => none
  | width + 1, value, c :: s =>
      if c.isDigit then number? width (10 * value + (c.toNat - 48)) s else none

/-- A hyphen at the front, if one is expected. -/
def separator? (expected : Bool) (s : List Char) : Option (List Char) :=
  if expected then match s with
    | '-' :: rest => some rest
    | _ => none
  else some s

/-- Whether a text starts with an existing day, after four digits of the year: month and day, or
a week with or without a day.  Text behind the day is not looked at. -/
def startsWithDay (year : Nat) (s : List Char) : Bool :=
  let (separated, s) := match s with
    | '-' :: rest => (true, rest)
    | _ => (false, s)
  let found : Option Bool := match s with
    | 'W' :: rest => do
        let (week, rest) ← number? 2 0 rest
        if rest.isEmpty then return isWeekDate year week 1
        let (day, _) ← number? 1 0 (← separator? separated rest)
        return isWeekDate year week day
    | _ => do
        let (month, rest) ← number? 2 0 s
        let (day, _) ← number? 2 0 (← separator? separated rest)
        return (ofNumbers year month day).toOption.isSome
  found.getD false

/-- Whether a text is read as a day.  It has the length of one of the written forms (seven, eight
or ten bytes), four digits for the year, and then a day. -/
def isReadable (s : String) : Bool :=
  let size := s.utf8ByteSize
  (size == 7 || size == 8 || size == 10) &&
    match number? 4 0 s.toList with
    | some (year, rest) => startsWithDay year rest
    | none => false

/-- A number of at least `width` digits. -/
def padded (width n : Nat) : String :=
  let digits := Nat.toDigits 10 n
  String.ofList (List.replicate (width - digits.length) '0' ++ digits)

/-- The date as year, month and day with hyphens. -/
def text (d : Date) : String := padded 4 d.year ++ "-" ++ padded 2 d.month ++ "-" ++ padded 2 d.day

end Date

end FormRules
