import FormRules.Failure
import FormRules.Unicode.Case
/-!
# File sizes

A size is a number, whole or with a fraction, and an optional unit of bytes, kilobytes, megabytes
or gigabytes in any case; white space may stand around both.  The number is read as a binary
floating-point number, multiplied by the unit and cut to a whole number.
-/
namespace FormRules.FileSize

/-- The number of bytes of a unit; no unit means bytes. -/
def unit? (name : List Char) : Option Nat :=
  match name.map Unicode.foldChar with
  | [] => some 1
  | ['b'] => some 1
  | ['k', 'b'] => some 1024
  | ['m', 'b'] => some (1024 * 1024)
  | ['g', 'b'] => some (1024 * 1024 * 1024)
  | _ => none

/-- The digits at the front, with a fraction if a point and digits follow, and the rest. -/
def splitNumber (s : List Char) : List Char × List Char :=
  let whole := s.takeWhile Unicode.isDigit
  let rest := s.dropWhile Unicode.isDigit
  match rest with
  | '.' :: tail =>
      let fraction := tail.takeWhile Unicode.isDigit
      if fraction.isEmpty then (whole, rest)
      else (whole ++ '.' :: fraction, tail.dropWhile Unicode.isDigit)
  | _ => (whole, rest)

/-- The number and the unit of a size. -/
def split? (text : String) : Option (List Char × Nat) := do
  let (number, rest) := splitNumber (text.toList.dropWhile Unicode.isBlank)
  if number.isEmpty then none
  let unit ← unit? (Unicode.strip rest)
  return (number, unit)

/-- A floating-point number as a whole one. -/
def toInteger (x : Binary64) : Outcome Int :=
  match x.truncate? with
  | some n => .ok n
  | none => .error (if x = .nan then .undefinedInteger else .infiniteInteger)

/-- The number of bytes that a text denotes. -/
def parse (text : String) : Outcome Int :=
  match split? text with
  | none => .error (.fileSize text)
  | some (number, unit) => do toInteger ((← readDecimal (String.ofList number)).mul (.ofInt unit))

end FormRules.FileSize
