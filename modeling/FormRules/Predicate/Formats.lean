import FormRules.Pattern.Matching
/-!
# Text formats

The formats that standard rules ask for, as patterns over the whole text.
-/
namespace FormRules.Predicate

open Pattern

/-! ## Shapes -/

/-- One or more of a pattern. -/
def oneOrMore (p : Pattern) : Pattern := .loop 1 none p

/-- Any number of a pattern. -/
def many (p : Pattern) : Pattern := .loop 0 none p

/-- A pattern or nothing. -/
def optional (p : Pattern) : Pattern := .loop 0 (some 1) p

/-- A sequence of patterns. -/
def inOrder : List Pattern → Pattern
  | [] => .empty
  | [p] => p
  | p :: rest => .cat p (inOrder rest)

/-- One given character. -/
def literal (c : Char) : Pattern := .char (.single false c.toNat .exact)

/-- One given character in any case. -/
def caseless (c : Char) : Pattern := .char (.single false c.toNat .full)

/-- One character of a set. -/
def oneOf (items : List Item) : Pattern := .char (.set false items .exact)

def span (low high : Char) : Item := .range low.toNat high.toNat

def one (c : Char) : Item := .single c.toNat

def lowerLetters : Item := span 'a' 'z'

def upperLetters : Item := span 'A' 'Z'

def digits : Item := span '0' '9'

/-- An optional plus or minus. -/
def sign : Pattern := optional (oneOf [one '-', one '+'])

/-! ## Formats -/

/-- A mail address: a local part, an at sign, a host with a dot and a last label of letters. -/
def emailPattern : Pattern :=
  inOrder
    [oneOrMore (oneOf [lowerLetters, upperLetters, digits, one '.', one '_', one '%', one '+', one '-']),
      literal '@',
      oneOrMore (oneOf [lowerLetters, upperLetters, digits, one '.', one '-']),
      literal '.',
      .loop 2 none (oneOf [lowerLetters, upperLetters])]

/-- A web address: a scheme, a character that may begin a host, any character but a line feed, and
no white space from there on. -/
def urlPattern : Pattern :=
  let blank := Item.category .blank false false
  inOrder
    [caseless 'h', caseless 't', caseless 't', caseless 'p', optional (caseless 's'),
      caseless ':', caseless '/', caseless '/',
      .char (.set true [blank, one '/', one '$', one '.', one '?', one '#'] .exact),
      .char (.any false),
      many (.char (.set true [blank] .exact))]

/-- A whole number without leading zeros. -/
def intPattern : Pattern :=
  .cat sign (.alt (literal '0') (.cat (oneOf [span '1' '9']) (many (oneOf [digits]))))

/-- A sign, digits, a fraction and an exponent, each of which may be missing. -/
def floatPattern : Pattern :=
  let someDigits := oneOrMore (oneOf [digits])
  inOrder
    [sign, optional someDigits, optional (.cat (literal '.') someDigits),
      optional (inOrder [oneOf [one 'e', one 'E'], sign, someDigits])]

/-- Digits after an optional sign. -/
def numericPattern : Pattern := .cat sign (oneOrMore (oneOf [digits]))

def alphaPattern : Pattern := oneOrMore (oneOf [lowerLetters, upperLetters])

def alphanumericPattern : Pattern := oneOrMore (oneOf [lowerLetters, upperLetters, digits])

/-- The texts that stand for a flag. -/
def flagTexts : List String := ["true", "false", "1", "0"]

end FormRules.Predicate
