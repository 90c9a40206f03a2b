import FormRules.Failure
import FormRules.Text.Base64
import FormRules.Unicode.Case
import FormRules.Yaml.Fault
import FormRules.Yaml.Tag
/-!
# What scalars hold

The text of a scalar stands for a value under its tag.  Flags are words in any case; numbers may
have bars between their digits, a sign in front, and parts in base 60; days and moments are made of
numbers; bytes are written in base 64.
-/
namespace FormRules.Yaml.Content

def ofNumeral {α : Type} (x : Except NumeralFault α) : Outcome α := x.mapError .numeral

/-- The flag of a word in any case. -/
def flag (s : String) : Outcome Value :=
  let word := String.ofList (Unicode.lower s.toList)
  match Tag.flags.lookup word with
  | some b => .ok (.bool b)
  | none => .error (.noEntry (.str word))

/-! ## Numbers -/

/-- The number of the parts of a numeral in base 60. -/
def ofSixtieths (parts : List Int) : Int := parts.foldl (fun n part => 60 * n + part) 0

/-- An integer without sign and bars.  A zero in front means base 8 unless a letter says more. -/
def unsignedInteger (s : List Char) : Except NumeralFault Int :=
  match s with
  | ['0'] => .ok 0
  | '0' :: 'b' :: digits => Numeral.readInBase 2 digits
  | '0' :: 'x' :: digits => Numeral.readInBase 16 digits
  | '0' :: digits => Numeral.readInBase 8 ('0' :: digits)
  | [] => .error .missing
  | s =>
      if s.contains ':' then
        ((Text.split ':' s).mapM fun part => Numeral.readInt (String.ofList part)).map ofSixtieths
      else Numeral.readInt (String.ofList s)

/-- The integer of a text; bars in it do not count. -/
def integer (s : String) : Outcome Value :=
  let digits := s.toList.filter (· != '_')
  if digits.isEmpty then .error (.numeral .missing)
  else
    let (negative, body) := Numeral.splitSign digits
    ofNumeral ((unsignedInteger body).map fun n => .int (if negative then -n else n))

/-- The sum of the parts of a numeral in base 60, from the last one on; each is weighed with a
power of 60. -/
def sumSixtieths (weight : Nat) (sum : Binary64) : List Binary64 → Outcome Binary64
  | [] => .ok sum
  | part :: parts => do
      sumSixtieths (60 * weight) (sum.add (part.mul (← nearestBinary weight))) parts

/-- A number without sign and bars, in lower case. -/
def unsignedFloat (s : List Char) : Outcome Binary64 := do
  if s.contains ':' then
    let parts ← (Text.split ':' s).mapM fun part => readDecimal (String.ofList part)
    sumSixtieths 1 (.zero false) parts.reverse
  else readDecimal (String.ofList s)

/-- The mark of what is no number where it is written with a point. -/
def notNumber : Nat := 0

/-- The number with a point of a text; bars in it do not count.  What turns out to be no number
gets a mark of its own. -/
def float (mark : Nat) (s : String) : Outcome Value := do
  let digits := Unicode.lower (s.toList.filter (· != '_'))
  if digits.isEmpty then .error (.numeral .missing)
  let (negative, body) := Numeral.splitSign digits
  if body = ".inf".toList then return .float (.infinite negative)
  else if body = ".nan".toList then return .nan notNumber
  else match ← unsignedFloat body with
    | .nan => return .nan mark
    | x => return .float (if negative then x.neg else x)

/-! ## Days and moments -/

def number (digits : List Char) : Nat := Numeral.ofDigits (digits.map (·.toNat - 48))

/-- The first six digits of a fraction. -/
def microseconds (fraction : List Char) : Nat :=
  number ((fraction ++ List.replicate 6 '0').take 6)

/-- The minutes of an offset. -/
def offsetMinutes (o : Bool × List Char × List Char) : Int :=
  let minutes : Int := number o.2.1 * 60 + number o.2.2
  if o.1 then -minutes else minutes

/-- The day or moment of a text, which may end with the end of a line. -/
def timestamp (s : String) : Outcome Value :=
  match Tag.stamp? (Tag.withoutLastBreak s.toList) with
  | none => .error .noAttribute
  | some stamp =>
      let year := number stamp.year
      let month := number stamp.month
      let day := number stamp.day
      match stamp.time with
      | none => ((Date.ofNumbers year month day).mapError fun f => .moment (.date f)).map .date
      | some (hour, minute, second) =>
          ((Moment.ofNumbers year month day (number hour) (number minute) (number second)
            (microseconds stamp.fraction) (stamp.offset.map offsetMinutes)).mapError
              .moment).map .moment

/-! ## Bytes -/

/-- The bytes of a text of ASCII characters in base 64. -/
def bytes (s : String) : Except Fault Value :=
  if s.toList.all fun c => c.toNat < 128 then
    match Text.Base64.read? s.toList with
    | some bs => .ok (.bytes bs)
    | none => .error (.node .notBytes)
  else .error (.node .notBytes)

/-! ## Scalars -/

/-- The value of the text of a scalar under a tag of scalars. -/
def ofText (tag : Tag) (mark : Nat) (s : String) : Except Fault Value :=
  let content (o : Outcome Value) : Except Fault Value := o.mapError .content
  match tag with
  | .null => .ok .null
  | .bool => content (flag s)
  | .int => content (integer s)
  | .float => content (float mark s)
  | .timestamp => content (timestamp s)
  | .binary => bytes s
  | _ => .ok (.str s)

end FormRules.Yaml.Content
