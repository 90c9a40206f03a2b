import FormRules.Value.Basic
import FormRules.Number.Shortest
import FormRules.Text.Quoted
/-!
# Values as text

`shown` writes a value so that its kind can be told: texts are quoted, bytes are quoted behind a
mark, sequences are bracketed, files, dates and moments are written with their members.  A node of
a ring that is being written already is only indicated.  `text` is the same except that a text
stands for itself and a date is written with hyphens.

An integer of very many digits has no text.
-/
namespace FormRules.Value

/-- The decimal text of an integer. -/
def integerText (n : Int) : String :=
  let digits := String.ofList (Nat.toDigits 10 n.natAbs)
  if n < 0 then "-" ++ digits else digits

/-- A byte inside quotes. -/
def byteText (quote : Char) (b : UInt8) : List Char :=
  let c := Char.ofNat b.toNat
  if c = quote ∨ c = '\\' then ['\\', c]
  else if c = '\n' then ['\\', 'n']
  else if c = '\r' then ['\\', 'r']
  else if c = '\t' then ['\\', 't']
  else if b < 32 || 127 ≤ b then Text.codePoint b.toNat
  else [c]

/-- Bytes between quotes, with their mark. -/
def bytesText (bs : List UInt8) : String :=
  let quote := Text.quoteFor (bs.map fun b => Char.ofNat b.toNat)
  String.ofList ('b' :: quote :: (bs.flatMap (byteText quote) ++ [quote]))

/-- What indicates a node of a ring. -/
def indication : Value → String
  | .list _ => "[...]"
  | _ => "\x7b...\x7d"

/-- The text of the node of a ring at a place, from the nodes and their texts, each as a function of
the texts of the other nodes; `active` are the places of the nodes that are being written. -/
def ringText (nodes : List Value) (texts : List ((Nat → String) → String)) :
    (fuel : Nat) → (active : List Nat) → (place : Nat) → String
  | 0, _, place => indication ((nodes[place]?).getD .null)
  | fuel + 1, active, place =>
      if active.contains place then indication ((nodes[place]?).getD .null)
      else ((texts[place]?).map fun text =>
        text (ringText nodes texts fuel (place :: active))).getD ""

mutual

/-- A value in a form that tells its kind, given the texts of the nodes around it by place. -/
def shownWithin : Value → (Nat → String) → String
  | .null, _ => "None"
  | .bool b, _ => if b then "True" else "False"
  | .int n, _ => integerText n
  | .float x, _ => String.ofList x.text
  | .nan _, _ => "nan"
  | .str s, _ => Text.quote s
  | .bytes bs, _ => bytesText bs
  | .list xs, around => "[" ++ ", ".intercalate (shownItems xs around) ++ "]"
  | .tuple xs, around => match shownItems xs around with
    | [item] => "(" ++ item ++ ",)"
    | items => "(" ++ ", ".intercalate items ++ ")"
  | .map es, around => "\x7b" ++ ", ".intercalate (shownEntries es around) ++ "\x7d"
  | .set [], _ => "set()"
  | .set (x :: xs), around =>
      "\x7b" ++ ", ".intercalate (shownWithin x around :: shownItems xs around) ++ "\x7d"
  | .file name size type, around =>
      "FileHandle(name=" ++ shownWithin name around ++ ", size=" ++ shownWithin size around ++
        ", type=" ++ shownWithin type around ++ ")"
  | .date d, _ =>
      "datetime.date(" ++ toString d.year ++ ", " ++ toString d.month ++ ", " ++
        toString d.day ++ ")"
  | .moment m, _ => m.shown
  | .ring nodes place, _ => ringText nodes (shownNodes nodes) (nodes.length + 1) [] place
  | .again place, around => around place

/-- The items of a sequence, each in a form that tells its kind. -/
def shownItems : List Value → (Nat → String) → List String
  | [], _ => []
  | x :: xs, around => shownWithin x around :: shownItems xs around

/-- The entries of a mapping as key, colon and value. -/
def shownEntries : List (Value × Value) → (Nat → String) → List String
  | [], _ => []
  | (k, v) :: rest, around =>
      (shownWithin k around ++ ": " ++ shownWithin v around) :: shownEntries rest around

/-- The nodes of a ring, each as a function of the texts of the nodes by place. -/
def shownNodes : List Value → List ((Nat → String) → String)
  | [] => []
  | v :: rest => shownWithin v :: shownNodes rest

end

/-- A value in a form that tells its kind. -/
def shown (v : Value) : String := shownWithin v fun _ => ""

/-- The plain text of a value. -/
def text : Value → String
  | .str s => s
  | .date d => d.text
  | .moment m => m.text
  | v => shown v

/-- The text that rules examine: nothing is empty, flags are in lower case. -/
def entryText : Value → String
  | .null => ""
  | .bool b => if b then "true" else "false"
  | v => text v

/-! ## Values without a text -/

/-- The greatest number of digits that an integer may have where it is written. -/
def digitLimit : Nat := 4300

/-- Whether an integer has too many digits. -/
def isLongInteger (n : Int) : Bool := Nat.pow 10 digitLimit ≤ n.natAbs

mutual

/-- Whether a value holds an integer with too many digits, so that it has no text. -/
def holdsLongInteger : Value → Bool
  | .int n => isLongInteger n
  | .list xs | .tuple xs | .set xs | .ring xs _ => someLongInteger xs
  | .map es => someLongEntry es
  | .file name size type =>
      holdsLongInteger name || holdsLongInteger size || holdsLongInteger type
  | _ => false

def someLongInteger : List Value → Bool
  | [] => false
  | v :: rest => holdsLongInteger v || someLongInteger rest

def someLongEntry : List (Value × Value) → Bool
  | [] => false
  | (k, v) :: rest => holdsLongInteger k || holdsLongInteger v || someLongEntry rest

end

end FormRules.Value
