import FormRules.Number.Numeral
import FormRules.Text.Split
/-!
# Tags

A tag says what a node stands for.  A plain scalar without a tag gets one from its text: a word for
a flag or for nothing, a number, a day, a mark for merging, and otherwise a text.  Integers have
the bases 2, 8, 10, 16 and 60; a leading zero means base 8.
-/
namespace FormRules.Yaml

/-- What a node stands for. -/
inductive Tag where
  | null
  | bool
  | int
  | float
  | timestamp
  | binary
  | str
  | sequence
  | mapping
  | set
  | orderedMap
  | pairs
  /-- A key whose mappings are merged into the one around it. -/
  | merge
  /-- A key whose value stands for the whole mapping. -/
  | standIn
  | other (name : String)
deriving DecidableEq, Repr, Inhabited

namespace Tag

/-- What the names of the standard tags begin with. -/
def standard : String := "tag:yaml.org,2002:"

/-- The standard tags that values have. -/
def names : List (String × Tag) :=
  [("null", .null), ("bool", .bool), ("int", .int), ("float", .float), ("timestamp", .timestamp),
    ("binary", .binary), ("str", .str), ("seq", .sequence), ("map", .mapping), ("set", .set),
    ("omap", .orderedMap), ("pairs", .pairs), ("merge", .merge), ("value", .standIn)]

/-- The tag of a name. -/
def ofName (name : String) : Tag :=
  ((names.map fun e => (standard ++ e.1, e.2)).lookup name).getD (.other name)

/-! ## Texts of flags and nothing -/

/-- The words for flags, in lower case. -/
def flags : List (String × Bool) :=
  [("yes", true), ("no", false), ("true", true), ("false", false), ("on", true), ("off", false)]

/-- The three spellings of a word that count: all small, with a capital, all capitals. -/
def spellings (word : String) : List String :=
  [word, word.capitalize, String.ofList (word.toList.map Char.toUpper)]

def isFlag (s : String) : Bool := (flags.flatMap fun e => spellings e.1).contains s

def isNull (s : String) : Bool := (["", "~"] ++ spellings "null").contains s

/-! ## Texts of numbers -/

/-- Whether a character may stand inside the digits of a number. -/
def isDigitOrBar (c : Char) : Bool := c.isDigit || c = '_'

/-- Whether a text is a sixtieth: one or two digits, less than 60. -/
def isSixtieth : List Char → Bool
  | [a] => a.isDigit
  | [a, b] => '0' ≤ a && a ≤ '5' && b.isDigit
  | _ => false

/-- Whether a text is an integer without sign. -/
def isUnsignedInteger : List Char → Bool
  | ['0'] => true
  | '0' :: 'b' :: c :: rest => (c :: rest).all fun d => d = '0' || d = '1' || d = '_'
  | '0' :: 'x' :: c :: rest =>
      (c :: rest).all fun d => d = '_' || (Numeral.digitOrLetter? d).any (· < 16)
  | '0' :: rest => rest.all fun d => ('0' ≤ d && d ≤ '7') || d = '_'
  | s => match Text.split ':' s with
    | (c :: rest) :: parts => c.isDigit && rest.all isDigitOrBar && parts.all isSixtieth
    | _ => false

def isInteger (s : List Char) : Bool := isUnsignedInteger (Numeral.splitSign s).2

/-- Whether a text is an exponent, or empty. -/
def isExponent : List Char → Bool
  | [] => true
  | e :: sign :: digits =>
      (e = 'e' || e = 'E') && (sign = '+' || sign = '-') && !digits.isEmpty &&
        digits.all Char.isDigit
  | _ => false

/-- Whether a text is a point and what may follow it. -/
def isFraction : List Char → Bool
  | '.' :: rest => isExponent (rest.dropWhile isDigitOrBar)
  | _ => false

/-- Whether a text is digits and a point, in base 60 with at least one colon. -/
def isSixtiethFloat (s : List Char) : Bool :=
  match Text.split ':' s with
  | (c :: rest) :: part :: parts =>
      let last := (part :: parts).getLastD []
      c.isDigit && rest.all isDigitOrBar && ((part :: parts).dropLast).all isSixtieth &&
        isSixtieth (last.takeWhile (· != '.')) &&
        match last.dropWhile (· != '.') with
        | '.' :: fraction => fraction.all isDigitOrBar
        | _ => false
  | _ => false

def isInfinity (s : List Char) : Bool :=
  match s with
  | '.' :: rest => (spellings "inf").contains (String.ofList rest)
  | _ => false

def isNotNumber (s : String) : Bool := [".nan", ".NaN", ".NAN"].contains s

/-- Whether a text is a number with a point. -/
def isFloat (s : List Char) : Bool :=
  let body := (Numeral.splitSign s).2
  (match body with
    | c :: rest => c.isDigit && isFraction (rest.dropWhile isDigitOrBar)
    | [] => false) ||
  (match s with
    | '.' :: c :: rest => c.isDigit && isExponent (rest.dropWhile isDigitOrBar)
    | _ => false) ||
  isSixtiethFloat body || isInfinity body || isNotNumber (String.ofList s)

/-! ## Texts of days and moments -/

/-- The numbers of a day or a moment, as they are written. -/
structure Stamp where
  year : List Char
  month : List Char
  day : List Char
  /-- Hour, minute and second. -/
  time : Option (List Char × List Char × List Char)
  fraction : List Char
  /-- Whether the offset is behind universal time, its hours and its minutes. -/
  offset : Option (Bool × List Char × List Char)
deriving Repr

/-- At least `least` and at most `most` digits. -/
def digits? (least most : Nat) (s : List Char) : Option (List Char × List Char) :=
  let found := (s.takeWhile Char.isDigit).take most
  if found.length < least then none else some (found, s.drop found.length)

/-- A character in front of a text. -/
def after? (c : Char) : List Char → Option (List Char)
  | x :: rest => if x = c then some rest else none
  | [] => none

def isSpaceOrTab (c : Char) : Bool := c = ' ' || c = '\t'

/-- An offset from universal time up to the end of the text; `Z` stands for none. -/
def offset? (s : List Char) : Option (Option (Bool × List Char × List Char)) :=
  match s.dropWhile isSpaceOrTab with
  | [] => if s.isEmpty then some none else none
  | ['Z'] => some (some (false, [], []))
  | sign :: rest => do
      if sign != '+' && sign != '-' then none
      let (hours, rest) ← digits? 1 2 rest
      if rest.isEmpty then return some (sign == '-', hours, [])
      let (minutes, rest) ← digits? 2 2 (← after? ':' rest)
      if rest.isEmpty then return some (sign == '-', hours, minutes) else none

/-- The time of day behind a date, with its fraction and offset. -/
def time? (stamp : Stamp) (s : List Char) : Option Stamp := do
  let rest ← match s with
    | 'T' :: rest | 't' :: rest => some rest
    | c :: rest => if isSpaceOrTab c then some (rest.dropWhile isSpaceOrTab) else none
    | [] => none
  let (hour, rest) ← digits? 1 2 rest
  let (minute, rest) ← digits? 2 2 (← after? ':' rest)
  let (second, rest) ← digits? 2 2 (← after? ':' rest)
  let (fraction, rest) := match rest with
    | '.' :: tail => (tail.takeWhile Char.isDigit, tail.dropWhile Char.isDigit)
    | _ => ([], rest)
  return { stamp with
    time := some (hour, minute, second)
    fraction := fraction
    offset := ← offset? rest }

/-- The numbers of a day or a moment.  Without a time, month and day may have one digit each. -/
def stamp? (s : List Char) : Option Stamp := do
  let (year, rest) ← digits? 4 4 s
  let (month, rest) ← digits? 1 2 (← after? '-' rest)
  let (day, rest) ← digits? 1 2 (← after? '-' rest)
  let stamp : Stamp := ⟨year, month, day, none, [], none⟩
  if rest.isEmpty then return stamp else time? stamp rest

/-- Whether a text is a day with two digits for month and day, or a moment. -/
def isTimestamp (s : List Char) : Bool :=
  match stamp? s with
  | some stamp => stamp.time.isSome || (stamp.month.length = 2 && stamp.day.length = 2)
  | none => false

/-! ## The tag of a text -/

/-- A text without the end of its last line. -/
def withoutLastBreak (s : List Char) : List Char :=
  if s.getLast? = some '\n' then s.dropLast else s

/-- The tag of the text of one line. -/
def ofLine (s : String) : Tag :=
  if isFlag s then .bool
  else if isFloat s.toList then .float
  else if isInteger s.toList then .int
  else if s = "<<" then .merge
  else if isNull s then .null
  else if isTimestamp s.toList then .timestamp
  else if s = "=" then .standIn
  else .str

/-- The tag of a scalar that is left to its text, which may end with the end of a line. -/
def ofText (s : String) : Tag :=
  if s = "\n" then .str else ofLine (String.ofList (withoutLastBreak s.toList))

end Tag

end FormRules.Yaml
