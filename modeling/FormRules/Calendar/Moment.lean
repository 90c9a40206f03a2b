import FormRules.Calendar.Date
/-!
# Moments

A moment is a time of day on a date, to the microsecond.  It may say how many minutes its clock is
ahead of universal time; two moments that say so are equal when they are the same instant.
-/
namespace FormRules

/-- A time of day on a date. -/
structure Moment where
  date : Date
  hour : Nat
  minute : Nat
  second : Nat
  microsecond : Nat
  /-- Minutes by which the clock is ahead of universal time, if that is known. -/
  offset : Option Int
deriving DecidableEq, Repr, Inhabited

namespace Moment

/-- What is wrong with the numbers of a moment. -/
inductive Fault where
  | date (fault : Date.Fault)
  | hour
  | minute
  | second
  | offset (minutes : Int)
deriving DecidableEq, Repr

/-- The moment of seven numbers and an offset of less than a day; the first one out of range is
reported. -/
def ofNumbers (year month day hour minute second microsecond : Nat) (offset : Option Int) :
    Except Fault Moment :=
  match offset.filter fun minutes => 24 * 60 ≤ minutes.natAbs with
  | some minutes => .error (.offset minutes)
  | none =>
      match Date.ofNumbers year month day with
      | .error fault => .error (.date fault)
      | .ok date =>
          if 23 < hour then .error .hour
          else if 59 < minute then .error .minute
          else if 59 < second then .error .second
          else .ok ⟨date, hour, minute, second, microsecond, offset⟩

/-- Days before a date, counted from the first of January of year 1. -/
def daysBefore (d : Date) : Nat :=
  Date.daysBeforeYear d.year +
    (List.range (d.month - 1)).foldl (fun days m => days + Date.daysInMonth d.year (m + 1)) 0 +
    (d.day - 1)

/-- Microseconds since the start of year 1 by the moment's own clock. -/
def ticks (m : Moment) : Nat :=
  (((daysBefore m.date * 24 + m.hour) * 60 + m.minute) * 60 + m.second) * 1000000 + m.microsecond

/-- Whether two moments are equal; one that knows its offset differs from one that does not. -/
def same (a b : Moment) : Bool :=
  match a.offset, b.offset with
  | none, none => a == b
  | some x, some y => (a.ticks : Int) - x * 60000000 == (b.ticks : Int) - y * 60000000
  | _, _ => false

/-- An offset as hours and minutes with a sign. -/
def offsetText (minutes : Int) : String :=
  let n := minutes.natAbs
  (if minutes < 0 then "-" else "+") ++ Date.padded 2 (n / 60) ++ ":" ++ Date.padded 2 (n % 60)

/-- The moment with a separator between date and time. -/
def textWith (separator : String) (m : Moment) : String :=
  m.date.text ++ separator ++ Date.padded 2 m.hour ++ ":" ++ Date.padded 2 m.minute ++ ":" ++
    Date.padded 2 m.second ++
    (if m.microsecond = 0 then "" else "." ++ Date.padded 6 m.microsecond) ++
    (m.offset.map offsetText).getD ""

/-- The moment as plain text. -/
def text (m : Moment) : String := m.textWith " "

/-- A span of minutes as whole days and the seconds of the last one. -/
def spanShown (minutes : Int) : String :=
  let days := minutes / (24 * 60)
  let seconds := (minutes % (24 * 60)) * 60
  let parts :=
    (if days = 0 then [] else ["days=" ++ toString days]) ++
      (if seconds = 0 then [] else ["seconds=" ++ toString seconds])
  "datetime.timedelta(" ++ (if parts.isEmpty then "0" else ", ".intercalate parts) ++ ")"

/-- An offset in a form that tells its kind. -/
def offsetShown (minutes : Int) : String :=
  if minutes = 0 then "datetime.timezone.utc" else "datetime.timezone(" ++ spanShown minutes ++ ")"

/-- The moment in a form that tells its kind; seconds are left out when nothing follows them. -/
def shown (m : Moment) : String :=
  let numbers :=
    [m.date.year, m.date.month, m.date.day, m.hour, m.minute] ++
      (if m.microsecond = 0 then (if m.second = 0 then [] else [m.second])
        else [m.second, m.microsecond])
  "datetime.datetime(" ++ ", ".intercalate (numbers.map toString) ++
    (m.offset.map fun o => ", tzinfo=" ++ offsetShown o).getD "" ++ ")"

/-- The wording of a fault. -/
def Fault.message : Fault → String
  | .date fault => fault.message
  | .hour => "hour must be in 0..23"
  | .minute => "minute must be in 0..59"
  | .second => "second must be in 0..59"
  | .offset minutes =>
      "offset must be a timedelta strictly between -timedelta(hours=24) and " ++
        "timedelta(hours=24), not " ++ spanShown minutes ++ "."

end Moment

end FormRules
