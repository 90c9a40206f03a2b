import FormRules.Pattern.Reader
import FormRules.Unicode.Names
/-!
# Escapes and sets

A backslash gives a character a meaning, takes its meaning away, or begins the number of a
character or of a group.  A set lists characters, ranges and categories between brackets, where
fewer characters have a meaning.
-/
namespace FormRules.Pattern

/-! ## Escapes -/

/-- An escape or character inside a set. -/
inductive SetAtom where
  | code (n : Nat)
  | category (c : Category) (complement : Bool)

/-- Escapes that name a control character. -/
def controlOf? : Char → Option Nat
  | 'a' => some 7
  | 'b' => some 8
  | 'f' => some 12
  | 'n' => some 10
  | 'r' => some 13
  | 't' => some 9
  | 'v' => some 11
  | '\\' => some 92
  | _ => none

/-- Escapes that name a class. -/
def categoryOf? : Char → Option (Category × Bool)
  | 'd' => some (.digit, false)
  | 'D' => some (.digit, true)
  | 's' => some (.blank, false)
  | 'S' => some (.blank, true)
  | 'w' => some (.word, false)
  | 'W' => some (.word, true)
  | _ => none

/-- Escapes that name a place. -/
def anchorOf? (ascii : Bool) : Char → Option Anchor
  | 'A' => some .textStart
  | 'b' => some (.boundary ascii)
  | 'B' => some (.noBoundary ascii)
  | 'Z' => some .textEnd
  | _ => none

def isHexadecimal (c : Char) : Bool :=
  c.isDigit || ('a' ≤ c && c ≤ 'f') || ('A' ≤ c && c ≤ 'F')

def isOctal (c : Char) : Bool := '0' ≤ c && c ≤ '7'

/-- The value of a digit up to `f`. -/
def hexadecimalValue (c : Char) : Nat :=
  if c.isDigit then c.toNat - 48 else if 'a' ≤ c then c.toNat - 87 else c.toNat - 55

/-- The number that digits denote in a base. -/
def valueIn (base : Nat) (digits : List Char) : Nat :=
  digits.foldl (fun n c => base * n + hexadecimalValue c) 0

/-- A code point of exactly `width` hexadecimal digits behind the letter `c`. -/
def hexadecimalEscape (c : Char) (width : Nat) : Reader Nat := do
  let digits ← Reader.takeWhile isHexadecimal width
  let escape := '\\' :: c :: digits
  if digits.length != width then
    Reader.fail (.incompleteEscape (String.ofList escape)) escape.length
  let n := valueIn 16 digits
  if 0x110000 ≤ n then Reader.fail (.badEscape (String.ofList escape)) escape.length
  return n

/-- A character by its name in braces.  Half of a pair cannot stand in a name. -/
def namedEscape : Reader Nat := do
  if !(← Reader.accept '\x7b') then Reader.fail (.missing "\x7b") 0
  let name ← Reader.takeUntil '\x7d' "character name"
  if Text.holdsHalf name then Reader.fail (.badEscape "\\N") 2
  match Unicode.named? name with
  | some n => return n
  | none => Reader.fail (.undefinedCharacter (String.ofList name)) (name.length + 4)

/-- Escapes by hexadecimal code point or by name. -/
def codeEscape? (c : Char) : Reader (Option Nat) := do
  match c with
  | 'x' => return some (← hexadecimalEscape c 2)
  | 'u' => return some (← hexadecimalEscape c 4)
  | 'U' => return some (← hexadecimalEscape c 8)
  | 'N' => return some (← namedEscape)
  | _ => return none

/-- A letter has no meaning of its own behind a backslash, any other character stands for
itself. -/
def plainEscape (c : Char) : Reader Nat := do
  if c.isAlphanum then Reader.fail (.badEscape (String.ofList ['\\', c])) 2
  return Text.codeOf c

/-- An octal escape of the given digits; its value is at most 0o377. -/
def octalEscape (digits : List Char) : Reader Nat := do
  let n := valueIn 8 digits
  if 0o377 < n then
    Reader.fail (.octalTooLarge (String.ofList ('\\' :: digits))) (digits.length + 1)
  return n

/-- An escape inside a set. -/
def setEscape (c : Char) : Reader SetAtom := do
  if let some n := controlOf? c then return .code n
  if let some (k, complement) := categoryOf? c then return .category k complement
  if let some n ← codeEscape? c then return .code n
  if isOctal c then
    let more ← Reader.takeWhile isOctal 2
    return .code (← octalEscape (c :: more))
  return .code (← plainEscape c)

/-- The text of a closed group again. -/
def backReference (flags : Flags) (index back : Nat) : Reader Term := do
  match ← Reader.closedWidth? index with
  | none => Reader.fail .openGroup back
  | some w =>
      Reader.checkBehind index
      return .again index flags.folding w

/-- A character by its code point. -/
def single (flags : Flags) (n : Nat) : Term := .char (.single false n flags.folding)

/-- A character of the pattern that stands for itself. -/
def literal (flags : Flags) (c : Char) : Term := single flags (Text.codeOf c)

/-- An escape that begins with a digit other than zero: three octal digits are a character,
otherwise the digits refer to a group. -/
def numberEscape (flags : Flags) (c : Char) : Reader Term := do
  let reference (digits : List Char) : Reader Term := do
    let index := valueIn 10 digits
    if index < (← Reader.groupCount) then backReference flags index (digits.length + 1)
    else Reader.fail (.invalidGroup index) digits.length
  let second ← Reader.takeWhile Char.isDigit 1
  match second with
  | [d] =>
      if isOctal c && isOctal d then
        match ← Reader.takeWhile isOctal 1 with
        | [e] => return single flags (← octalEscape [c, d, e])
        | _ => reference [c, d]
      else reference [c, d]
  | _ => reference [c]

/-- An escape outside a set. -/
def escapeTerm (flags : Flags) (c : Char) : Reader Term := do
  if let some a := anchorOf? flags.ascii c then return .anchor a
  if let some (k, complement) := categoryOf? c then
    return .char (.set false [.category k flags.ascii complement] flags.folding)
  if let some n := controlOf? c then return single flags n
  if let some n ← codeEscape? c then return single flags n
  if c = '0' then
    let more ← Reader.takeWhile isOctal 2
    return single flags (valueIn 8 (c :: more))
  if c.isDigit then return ← numberEscape flags c
  return single flags (← plainEscape c)

/-! ## Sets -/

/-- A character or escape that a set holds. -/
def setAtom (t : Token) : Reader SetAtom :=
  match t.escaped? with
  | some c => setEscape c
  | none => return .code (Text.codeOf (t.text.headD ' '))

def SetAtom.item (ascii : Bool) : SetAtom → Item
  | .code n => .single n
  | .category c complement => .category c ascii complement

/-- The members of a set up to its bracket; `start` is where the set begins. -/
def setItems (ascii : Bool) (start : Nat) : Nat → List Item → Reader (List Item)
  | 0, items => return items
  | fuel + 1, items => do
      let unterminated : Reader (List Item) := do
        Reader.fail .unterminatedSet ((← Reader.tell) - start)
      match ← Reader.next with
      | none => unterminated
      | some t =>
          if t.is ']' && !items.isEmpty then return items
          let low ← setAtom t
          if !(← Reader.accept '-') then
            return ← setItems ascii start fuel (items ++ [low.item ascii])
          match ← Reader.next with
          | none => unterminated
          | some u =>
              if u.is ']' then return items ++ [low.item ascii, .single '-'.toNat]
              let high ← setAtom u
              let bad : Reader (List Item) :=
                Reader.fail (.badRange (String.ofList t.text) (String.ofList u.text))
                  (t.text.length + 1 + u.text.length)
              match low, high with
              | .code a, .code b =>
                  if b < a then bad
                  else setItems ascii start fuel (items ++ [.range a b])
              | _, _ => bad

/-- A set, of which the opening bracket has been taken. -/
def readSet (flags : Flags) : Reader Term := do
  let start := (← Reader.tell) - 1
  let complement ← Reader.accept '^'
  let items ← setItems flags.ascii start ((← get).ahead.length + 1) []
  match items.eraseDups with
  | [.single n] => return .char (.single complement n flags.folding)
  | items => return .char (.set complement items flags.folding)

end FormRules.Pattern
