import FormRules.Pattern.Fault
/-!
# Pieces of a pattern

A pattern is read in pieces: a backslash together with the character behind it, or one character.
A backslash that ends the pattern is a fault as soon as it comes next.
-/
namespace FormRules.Pattern

/-- A piece of a pattern and where it begins. -/
structure Token where
  text : List Char
  position : Nat
deriving DecidableEq, Repr

/-- The pieces of a text that begins at a position. -/
def tokensFrom (position : Nat) : List Char → List Token
  | [] => []
  | '\\' :: c :: rest => ⟨['\\', c], position⟩ :: tokensFrom (position + 2) rest
  | c :: rest => ⟨[c], position⟩ :: tokensFrom (position + 1) rest

/-- A backslash without a character behind it. -/
def Token.isDangling (t : Token) : Bool := t.text == ['\\']

/-- A piece that is one given character. -/
def Token.is (t : Token) (c : Char) : Bool := t.text == [c]

/-- The escaped character of an escape. -/
def Token.escaped? (t : Token) : Option Char :=
  match t.text with
  | ['\\', c] => some c
  | _ => none

end FormRules.Pattern
