import FormRules.Number.Binary64
import FormRules.Text.Quoted
import FormRules.Unicode.Blank
/-!
# Reading numerals

Integers and decimals are read with white space around them, an optional sign, decimal digits of
any script and single underscores between digits.  An integer has at most 4300 digits; a decimal
may also be an infinity or no number, spelled in any case.
-/
namespace FormRules

/-- Why a text is no numeral. -/
inductive NumeralFault where
  | notInteger (text : String)
  /-- Bytes that are no numeral, as they are shown. -/
  | notIntegerBytes (shown : String)
  | tooManyDigits (count : Nat)
  | notDecimal (text : String)
  /-- A text with other characters than the digits of a base. -/
  | notInBase (base : Nat) (text : String)
  /-- A numeral without any character. -/
  | missing
deriving DecidableEq, Repr

namespace Numeral

/-- The greatest number of digits an integer numeral may have. -/
def digitLimit : Nat := 4300

end Numeral

/-- The wording of a fault. -/
def NumeralFault.message : NumeralFault → String
  | .notInteger text =>
      "invalid literal for int() with base 10: " ++
        String.ofList ((Text.quoted text.toList).take 200)
  | .notIntegerBytes shown =>
      "invalid literal for int() with base 10: " ++ String.ofList (shown.toList.take 200)
  | .tooManyDigits count =>
      "Exceeds the limit (" ++ toString Numeral.digitLimit ++
        " digits) for integer string conversion: value has " ++ toString count ++
        " digits; use sys.set_int_max_str_digits() to increase the limit"
  | .notDecimal text => "could not convert string to float: " ++ Text.quote text
  | .notInBase base text =>
      "invalid literal for int() with base " ++ toString base ++ ": " ++
        String.ofList ((Text.quoted text.toList).take 200)
  | .missing => "string index out of range"

namespace Numeral

/-- White space around a numeral: the separators of ASCII from file to unit do not count. -/
def isBlank (c : Char) : Bool :=
  if c.toNat < 128 then (9 ≤ c.toNat && c.toNat ≤ 13) || c == ' ' else Unicode.isBlank c

/-- The text without the white space around a numeral. -/
def trim (s : List Char) : List Char :=
  ((s.dropWhile isBlank).reverse.dropWhile isBlank).reverse

/-- An optional sign; `true` for a minus. -/
def splitSign : List Char → Bool × List Char
  | '-' :: rest => (true, rest)
  | '+' :: rest => (false, rest)
  | s => (false, s)

/-- Digits with single underscores between them, and what follows; `afterDigit` says whether a
digit stands before the text. -/
def digitsFrom (afterDigit : Bool) : List Char → Option (List Nat × List Char)
  | [] => if afterDigit then some ([], []) else none
  | c :: rest =>
      if c = '_' then if afterDigit then digitsFrom false rest else none
      else match Unicode.digitValue? c with
        | some d => (digitsFrom true rest).map fun (ds, tail) => (d :: ds, tail)
        | none => if afterDigit then some ([], c :: rest) else none

/-- The number that decimal digits denote. -/
def ofDigits (digits : List Nat) : Nat := digits.foldl (fun n d => 10 * n + d) 0

/-- Read an integer. -/
def readInt (text : String) : Except NumeralFault Int :=
  let (negative, body) := splitSign (text.toList.dropWhile isBlank)
  match digitsFrom false body with
  | none => .error (.notInteger text)
  | some (digits, rest) =>
      if digitLimit < digits.length then .error (.tooManyDigits digits.length)
      else if rest.all isBlank then
        .ok (if negative then -(ofDigits digits : Int) else ofDigits digits)
      else .error (.notInteger text)

/-- The value of an ASCII digit or letter as a digit. -/
def digitOrLetter? (c : Char) : Option Nat :=
  if c.isDigit then some (c.toNat - 48)
  else if 'a' ≤ c ∧ c ≤ 'z' then some (c.toNat - 87)
  else if 'A' ≤ c ∧ c ≤ 'Z' then some (c.toNat - 55)
  else none

/-- The value of an ASCII hexadecimal digit. -/
def hexDigit? (c : Char) : Option Nat := (digitOrLetter? c).filter (· < 16)

/-- Remove underscores, each of which must stand between two ASCII digits. -/
def dropUnderscores (before : Char) : List Char → Option (List Char)
  | [] => if before = '_' then none else some []
  | c :: rest =>
      if c = '_' then if before.isDigit then dropUnderscores c rest else none
      else if before = '_' ∧ !c.isDigit then none
      else (dropUnderscores c rest).map (c :: ·)

/-- A digit of any script as the ASCII digit of its value. -/
def plainDigit (c : Char) : Char :=
  match Unicode.digitValue? c with
  | some d => Char.ofNat (48 + d)
  | none => c

/-- The letter that marks a base behind a zero. -/
def baseLetter? (base : Nat) : Option Char :=
  if base = 2 then some 'b' else if base = 8 then some 'o' else if base = 16 then some 'x'
  else none

/-- A numeral without the mark of its base, if it has one. -/
def dropBaseMark (base : Nat) : List Char → List Char
  | '0' :: c :: rest => if baseLetter? base = some c.toLower then rest else '0' :: c :: rest
  | s => s

/-- Read an integer of a base of at most 36: digits of that base, the decimal ones of any script, in
front of them an optional sign and an optional mark of the base, and white space around. -/
def readInBase (base : Nat) (s : List Char) : Except NumeralFault Int :=
  let (negative, body) := splitSign (trim s)
  let values := (dropBaseMark base body).map fun c =>
    (digitOrLetter? (plainDigit c)).filter (· < base)
  if values.isEmpty || values.any Option.isNone then
    .error (.notInBase base (String.ofList s))
  else
    let n : Nat := (values.filterMap id).foldl (fun n d => base * n + d) 0
    .ok (if negative then -(n : Int) else n)

/-- The ASCII digits at the front as numbers, and the rest. -/
def leadingDigits (s : List Char) : List Nat × List Char :=
  ((s.takeWhile Char.isDigit).map (·.toNat - 48), s.dropWhile Char.isDigit)

/-- An optional exponent part up to the end of the text. -/
def readExponent : List Char → Option Int
  | [] => some 0
  | c :: rest =>
      if c = 'e' ∨ c = 'E' then
        let (negative, body) := splitSign rest
        match leadingDigits body with
        | (d :: ds, []) =>
            some (if negative then -(ofDigits (d :: ds) : Int) else ofDigits (d :: ds))
        | _ => none
      else none

/-- An unsigned decimal: digits, a fraction, an exponent, with a digit before or after the point. -/
def readUnsigned (negative : Bool) (s : List Char) : Option Binary64 :=
  let (whole, rest) := leadingDigits s
  let (fraction, rest) := match rest with
    | '.' :: tail => leadingDigits tail
    | _ => ([], rest)
  if whole.isEmpty && fraction.isEmpty then none
  else (readExponent rest).map fun e =>
    Binary64.ofDecimal negative (ofDigits (whole ++ fraction)) (e - fraction.length)

/-- The names of the numbers that have no digits, in lower case. -/
def readNamed (negative : Bool) (s : List Char) : Option Binary64 :=
  let name := String.ofList (s.map Char.toLower)
  if name = "inf" ∨ name = "infinity" then some (.infinite negative)
  else if name = "nan" then some .nan
  else none

/-- Read a decimal. -/
def readDecimal (text : String) : Except NumeralFault Binary64 :=
  let read : Option Binary64 := do
    let plain ← dropUnderscores ' ' ((trim text.toList).map plainDigit)
    let (negative, body) := splitSign plain
    (readNamed negative body).orElse fun _ => readUnsigned negative body
  match read with
  | some x => .ok x
  | none => .error (.notDecimal text)

end Numeral

end FormRules
