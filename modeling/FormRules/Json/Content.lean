import FormRules.Failure
import FormRules.Value.Table
/-!
# What JSON texts hold

A text holds one value between white space.  Numbers without fraction and exponent are integers;
besides numbers there are the two infinities and what is no number.  A later member of an object
takes the place of an earlier one of its name.
-/
namespace FormRules.Json

/-- Why a text is no JSON text. -/
inductive Fault where
  | byteOrderMark
  | noValue
  | noName
  | noColon
  | noComma
  | unclosedText
  | controlCharacter
  | escape
  | moreText
  | content (failure : Failure)
deriving Inhabited

/-- Whether a character is white space between values. -/
def isSpace (c : Char) : Bool := c = ' ' || c = '\t' || c = '\n' || c = '\r'

def trimStart (s : List Char) : List Char := s.dropWhile isSpace

/-! ## Texts -/

/-- The characters that escapes of one character stand for. -/
def escapes : List (Char × Char) :=
  [('"', '"'), ('\\', '\\'), ('/', '/'), ('b', '\x08'), ('f', '\x0c'), ('n', '\n'), ('r', '\r'),
    ('t', '\t')]

/-- The number of four hexadecimal digits. -/
def hexCode? (s : List Char) : Option (Nat × List Char) :=
  let digits := (s.take 4).filterMap Numeral.hexDigit?
  if digits.length = 4 then some (digits.foldl (fun n d => 16 * n + d) 0, s.drop 4) else none

/-- The character of a code behind `\u`; two halves of a pair make one character. -/
def coded (s : List Char) : Except Fault (Char × List Char) :=
  match hexCode? s with
  | none => .error .escape
  | some (code, rest) =>
      match Text.isHighHalf code, rest with
      | true, '\\' :: 'u' :: more =>
          match hexCode? more with
          | none => .error .escape
          | some (low, tail) =>
              if Text.isLowHalf low then .ok (Text.pairOf code low, tail)
              else .ok (Text.characterOf code, rest)
      | _, _ => .ok (Text.characterOf code, rest)

/-- The rest of a text up to its closing quote, and what follows it. -/
def quotedFrom : Nat → List Char → Except Fault (List Char × List Char)
  | 0, _ => .error .unclosedText
  | _, [] => .error .unclosedText
  | _, ['\\'] => .error .unclosedText
  | fuel + 1, '\\' :: 'u' :: s => do
      let (c, rest) ← coded s
      let (more, rest) ← quotedFrom fuel rest
      return (c :: more, rest)
  | fuel + 1, '\\' :: e :: s =>
      match escapes.lookup e with
      | none => .error .escape
      | some c => do
          let (more, rest) ← quotedFrom fuel s
          return (c :: more, rest)
  | fuel + 1, c :: s =>
      if c = '"' then .ok ([], s)
      else if c < ' ' then .error .controlCharacter
      else do
        let (more, rest) ← quotedFrom fuel s
        return (c :: more, rest)

/-- A text behind its opening quote. -/
def quoted (s : List Char) : Except Fault (String × List Char) := do
  let (text, rest) ← quotedFrom (s.length + 1) s
  return (String.ofList text, rest)

/-! ## Numbers -/

def spanDigits (s : List Char) : List Char × List Char := s.span Char.isDigit

/-- The digits in front of a point: a zero alone, or digits that start with another one. -/
def wholePart : List Char → List Char × List Char
  | '0' :: rest => (['0'], rest)
  | s => spanDigits s

/-- A point and the digits behind it, if there are any. -/
def fractionPart : List Char → List Char × List Char
  | '.' :: rest =>
      let (digits, tail) := spanDigits rest
      if digits.isEmpty then ([], '.' :: rest) else ('.' :: digits, tail)
  | s => ([], s)

/-- An exponent with its sign, if there are digits in it. -/
def exponentPart : List Char → List Char × List Char
  | [] => ([], [])
  | e :: rest =>
      if e != 'e' && e != 'E' then ([], e :: rest)
      else
        let (sign, body) := match rest with
          | '+' :: body => (['+'], body)
          | '-' :: body => (['-'], body)
          | body => ([], body)
        let (digits, tail) := spanDigits body
        if digits.isEmpty then ([], e :: rest) else ('e' :: sign ++ digits, tail)

/-- A number of digits. -/
def number (s : List Char) : Except Fault (Value × List Char) :=
  let (sign, body) := match s with
    | '-' :: body => (['-'], body)
    | body => ([], body)
  let (whole, rest) := wholePart body
  if whole.isEmpty then .error .noValue
  else
    let (fraction, rest) := fractionPart rest
    let (exponent, rest) := exponentPart rest
    let text := String.ofList (sign ++ whole ++ fraction ++ exponent)
    let read : Outcome Value :=
      if fraction.isEmpty && exponent.isEmpty then (readInteger text).map .int
      else (readDecimal text).map .float
    (read.mapError .content).map fun v => (v, rest)

/-! ## Values -/

/-- The mark of what is no number: it is the same one wherever it stands. -/
def notNumber : Nat := 1

/-- The words that are values. -/
def words : List (String × Value) :=
  [("null", .null), ("true", .bool true), ("false", .bool false), ("NaN", .nan notNumber),
    ("Infinity", .float (.infinite false)), ("-Infinity", .float (.infinite true))]

/-- A word at the front of a text, and what follows it. -/
def word? (s : List Char) : Option (Value × List Char) :=
  (words.find? fun e => e.1.toList.isPrefixOf s).map fun e => (e.2, s.drop e.1.length)

mutual

/-- A value at the front of a text, and what follows it. -/
def value : Nat → List Char → Except Fault (Value × List Char)
  | 0, _ => .error .noValue
  | _, [] => .error .noValue
  | fuel + 1, c :: rest =>
      if c = '"' then (quoted rest).map fun (text, rest) => (.str text, rest)
      else if c = '[' then
        match trimStart rest with
        | ']' :: rest => .ok (.list [], rest)
        | rest => (items fuel rest).map fun (vs, rest) => (.list vs, rest)
      else if c = '\x7b' then
        match trimStart rest with
        | '\x7d' :: rest => .ok (.map [], rest)
        | rest => (members fuel rest).map fun (es, rest) => (.map (Table.ofList es), rest)
      else match word? (c :: rest) with
        | some found => .ok found
        | none => number (c :: rest)

/-- The items of an array that is not empty, from one of them on, and what follows the array. -/
def items : Nat → List Char → Except Fault (List Value × List Char)
  | 0, _ => .error .noValue
  | fuel + 1, s => do
      let (v, rest) ← value fuel s
      match trimStart rest with
      | ',' :: rest => do
          let (more, rest) ← items fuel (trimStart rest)
          return (v :: more, rest)
      | ']' :: rest => return ([v], rest)
      | _ => .error .noComma

/-- The members of an object that is not empty, from one of them on, and what follows the
object. -/
def members : Nat → List Char → Except Fault (List (Value × Value) × List Char)
  | 0, _ => .error .noName
  | fuel + 1, s => do
      let (name, rest) ← (match s with
        | '"' :: rest => quoted rest
        | _ => .error .noName : Except Fault (String × List Char))
      let rest ← (match trimStart rest with
        | ':' :: rest => .ok (trimStart rest)
        | _ => .error .noColon : Except Fault (List Char))
      let (v, rest) ← value fuel rest
      match trimStart rest with
      | ',' :: rest => do
          let (more, rest) ← members fuel (trimStart rest)
          return ((.str name, v) :: more, rest)
      | '\x7d' :: rest => return ([(.str name, v)], rest)
      | _ => .error .noComma

end

/-- The value of a text. -/
def read (text : String) : Except Fault Value :=
  match text.toList with
  | '\ufeff' :: _ => .error .byteOrderMark
  | s => do
      let (v, rest) ← value (s.length + 1) (trimStart s)
      if (trimStart rest).isEmpty then return v else throw .moreText

end FormRules.Json
