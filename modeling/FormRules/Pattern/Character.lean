import FormRules.Text.HalfPair
import FormRules.Unicode.Blank
import FormRules.Unicode.Case
import FormRules.Unicode.Word
/-!
# Tests of one character

The smallest parts of a pattern: a character, a set of characters, any character; each compared as
it is or without regard to case.  Where case is ignored two characters are the same if their
lower-case forms are, or if those share an upper-case form.
-/
namespace FormRules.Pattern

/-- How characters are compared: as they are, or without regard to case, in ASCII or throughout. -/
inductive Folding where
  | exact
  | ascii
  | full
deriving DecidableEq, Repr

/-- Named classes of characters. -/
inductive Category where
  | digit
  | blank
  | word
deriving DecidableEq, Repr

/-- A member of a set: a code point, a range of code points, or a class or its complement. -/
inductive Item where
  | single (code : Nat)
  | range (low high : Nat)
  | category (c : Category) (ascii complement : Bool)
deriving DecidableEq, Repr

/-- A test of one character. -/
inductive CharTest where
  /-- Any character; whether a line feed counts is said. -/
  | any (lineFeed : Bool)
  | single (complement : Bool) (code : Nat) (folding : Folding)
  | set (complement : Bool) (items : List Item) (folding : Folding)
deriving DecidableEq, Repr

/-! ## Classes -/

/-- Whether a class holds a character. -/
def Category.holds (c : Category) (ascii : Bool) (x : Char) : Bool :=
  match c, ascii with
  | .digit, true => x.isDigit
  | .digit, false => Unicode.isDigit x
  | .blank, true => (9 ≤ x.toNat && x.toNat ≤ 13) || x == ' '
  | .blank, false => Unicode.isBlank x
  | .word, true => x.isAlphanum || x == '_'
  | .word, false => Unicode.isAlphanumeric x || x == '_'

/-! ## Letters that are the same without regard to case -/

/-- Groups of lower-case characters that share an upper-case form. -/
def caseKin : List (List Nat) :=
  [[0x69, 0x131], [0x73, 0x17f], [0xb5, 0x3bc], [0x345, 0x3b9, 0x1fbe], [0x390, 0x1fd3],
    [0x3b0, 0x1fe3], [0x3b2, 0x3d0], [0x3b5, 0x3f5], [0x3b8, 0x3d1], [0x3ba, 0x3f0],
    [0x3c0, 0x3d6], [0x3c1, 0x3f1], [0x3c2, 0x3c3], [0x3c6, 0x3d5], [0x432, 0x1c80],
    [0x434, 0x1c81], [0x43e, 0x1c82], [0x441, 0x1c83], [0x442, 0x1c84, 0x1c85], [0x44a, 0x1c86],
    [0x463, 0x1c87], [0xa64b, 0x1c88], [0x1e61, 0x1e9b], [0xfb05, 0xfb06]]

/-- The lower-case code points that are the same as `n` when case is ignored. -/
def kinOf (n : Nat) : List Nat := (caseKin.find? (·.contains n)).getD [n]

namespace Folding

/-- The code point that stands for a character. -/
def key (f : Folding) (c : Char) : Nat :=
  match f with
  | .exact => Text.codeOf c
  | .ascii => Text.codeOf c.toLower
  | .full => Text.codeOf (Unicode.foldChar c)

/-- Whether ignoring case makes a difference for a code point. -/
def moves (f : Folding) (n : Nat) : Bool :=
  match f with
  | .exact => false
  | .ascii => (Char.ofNat n).isAlpha && n < 128
  | .full => n.isValidChar && Unicode.hasCase (Char.ofNat n)

/-- The lower-case code point of a code point. -/
def keyOf (f : Folding) (n : Nat) : Nat := if n.isValidChar then f.key (Char.ofNat n) else n

/-- The lower-case code points that are the same as `n` when case is ignored. -/
def kin (f : Folding) (n : Nat) : List Nat :=
  match f with
  | .full => kinOf n
  | _ => [n]

end Folding

/-- The other code points whose lower-case form is `n`. -/
def preimages (f : Folding) (n : Nat) : List Nat :=
  let letter := if 97 ≤ n && n ≤ 122 then [n - 32] else []
  match f with
  | .exact => []
  | .ascii => letter
  | .full => letter ++ Unicode.unfolded n

/-- The first code point that a two-byte unit cannot hold. -/
def beyondPlane : Nat := 0x10000

/-! ## Tests -/

/-- Whether a set has to be tested by lower-case forms at all. -/
def Item.moves (f : Folding) : Item → Bool
  | .single n => f.moves n || (f != .exact && beyondPlane ≤ f.keyOf n)
  | .range low high =>
      f != .exact && (beyondPlane ≤ high || (List.range (high + 1 - low)).any fun k => f.moves (low + k))
  | .category .. => false

/-- Whether an item holds a character, compared as it is. -/
def Item.holdsExactly (c : Char) : Item → Bool
  | .single n => Text.codeOf c == n
  | .range low high => low ≤ Text.codeOf c && Text.codeOf c ≤ high
  | .category k ascii complement => k.holds ascii c != complement

/-- Whether an item holds a character given by its lower-case code point `n`.  Beyond the basic
plane a single member is compared as written, and a range with both forms of the character. -/
def Item.holdsFolded (f : Folding) (n : Nat) : Item → Bool
  | .single m =>
      if beyondPlane ≤ f.keyOf m then n == m else (f.kin n).contains (f.keyOf m)
  | .range low high =>
      let isInside (m : Nat) : Bool := low ≤ m && m ≤ high && m < beyondPlane
      ((f.kin n).any fun k => isInside k || (preimages f k).any isInside) ||
        (beyondPlane ≤ high &&
          let up := (Unicode.raiseChar (Char.ofNat n)).toNat
          (low ≤ n && n ≤ high) || (low ≤ up && up ≤ high))
  | .category k ascii complement => k.holds ascii (Char.ofNat n) != complement

namespace CharTest

/-- Whether a test accepts a character.  A set that does not compare characters as they are
compares their lower-case forms. -/
def accepts (c : Char) : CharTest → Bool
  | any lineFeed => lineFeed || c != '\n'
  | single complement n f =>
      (if f.moves n then (f.kin (f.key c)).contains (f.keyOf n) else Text.codeOf c == n) !=
        complement
  | set complement items .exact => items.any (Item.holdsExactly c) != complement
  | set complement items f => items.any (Item.holdsFolded f (f.key c)) != complement

/-- The test under which characters are compared as they are wherever case makes no difference. -/
def settled : CharTest → CharTest
  | any lineFeed => any lineFeed
  | single complement n f => single complement n (if f.moves n then f else .exact)
  | set complement items f =>
      set complement items (if items.any (Item.moves f) then f else .exact)

/-- Whether a test is made on lower-case forms of which several may be the same. -/
def isFolded : CharTest → Bool
  | any _ => false
  | single _ n f => 1 < (f.kin (f.keyOf n)).length
  | set _ _ f => f != .exact

end CharTest

end FormRules.Pattern
