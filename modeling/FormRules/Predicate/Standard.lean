import FormRules.Pattern.Machine
import FormRules.Pattern.Parser
import FormRules.Predicate.Arity
import FormRules.Predicate.Formats
import FormRules.Registry
import FormRules.Text.Split
/-!
# Standard rules

The rules for single values.  A value is turned into text first, except that a checkbox is
required to be checked.  Numbers in parameters are read when they are needed, so that a value may
fail before a malformed bound is noticed.

A rule answers with a value, as every predicate does: with what it compares or looks for, or with
the value itself.
-/
namespace FormRules

/-- The rules for single values. -/
inductive StandardRule where
  | required
  | empty
  | equals
  | contains
  | matching
  | isIn
  | isEmail
  | isURL
  | isAlpha
  | isAlphanumeric
  | isNumeric
  | isInt
  | isFloat
  | isBoolean
  | isDate
  | isUppercase
  | isLowercase
  | isLength
  | minLength
  | maxLength
deriving DecidableEq, Repr

namespace StandardRule

def all : List StandardRule :=
  [required, empty, equals, contains, matching, isIn, isEmail, isURL, isAlpha, isAlphanumeric,
    isNumeric, isInt, isFloat, isBoolean, isDate, isUppercase, isLowercase, isLength, minLength,
    maxLength]

/-- The name of a rule in rule strings. -/
def name : StandardRule → String
  | required => "required"
  | empty => "empty"
  | equals => "equals"
  | contains => "contains"
  | matching => "matches"
  | isIn => "isIn"
  | isEmail => "isEmail"
  | isURL => "isURL"
  | isAlpha => "isAlpha"
  | isAlphanumeric => "isAlphanumeric"
  | isNumeric => "isNumeric"
  | isInt => "isInt"
  | isFloat => "isFloat"
  | isBoolean => "isBoolean"
  | isDate => "isDate"
  | isUppercase => "isUppercase"
  | isLowercase => "isLowercase"
  | isLength => "isLength"
  | minLength => "minLength"
  | maxLength => "maxLength"

/-! ## Tests -/

/-- Whether a bound, if there is one, is met; it is read by `read`. -/
def meets {α : Type} (read : String → Outcome α) (ok : α → Bool) : Option String → Outcome Bool
  | none => .ok true
  | some bound => do return ok (← read bound)

/-- Both bounds in turn; the second one is not read if the first one is not met. -/
def within {α : Type} (read : String → Outcome α) (lowOk highOk : α → Bool)
    (low high : Option String) : Outcome Value := do
  if ← meets read lowOk low then
    if ← meets read highOk high then return .bool true else return .bool false
  else return .bool false

/-- Whole numbers, optionally within bounds. -/
def testInt (text : String) (low high : Option String) : Outcome Value := do
  if Predicate.intPattern.fullMatches text.toList then
    let n ← readInteger text
    within readInteger (fun b => decide (b ≤ n)) (fun b => decide (n ≤ b)) low high
  else return .bool false

/-- Decimals, optionally within bounds; a bound that is no number excludes nothing. -/
def testFloat (text : String) (low high : Option String) : Outcome Value := do
  if Predicate.floatPattern.fullMatches text.toList then
    match Numeral.readDecimal text with
    | .error _ => return .bool false
    | .ok x => within readDecimal (fun b => !x.lt b) (fun b => !b.lt x) low high
  else return .bool false

/-- The number of characters within bounds; there always is a lower one. -/
def testLength (text : String) (low high : Option String) : Outcome Value :=
  let size : Int := text.toList.length
  within readInteger (fun b => decide (b ≤ size)) (fun b => decide (size ≤ b)) low high

/-- The flags that letters in a parameter ask for. -/
def flagsOf (letters : String) : Pattern.Flags :=
  let has (c : Char) := letters.toList.contains c
  { Pattern.Flags.none with ignoreCase := has 'i', multiline := has 'm', dotAll := has 's' }

/-- The terms of a pattern that is used, not checked: its faults are faults of the pattern. -/
def termsOf (text : String) (flags : Pattern.Flags) : Outcome (List Pattern.Term) :=
  (Pattern.parse text flags).mapError fun
    | .fault f => .pattern text f
    | .numeral f => .numeral f
    | .countTooLarge => .countTooLarge
    | .incompatibleFlags => .incompatibleFlags

/-- Whether some part of a text is described by a pattern. -/
def testMatching (text pattern flags : String) : Outcome Value := do
  return .bool (Pattern.Machine.finds (← termsOf pattern (flagsOf flags)) text.toList)

/-- What a rule with parameters answers for a text. -/
def testText (text : String) : StandardRule → List String → Outcome Value
  | required, [] => .ok (.bool (text != ""))
  | empty, [] => .ok (.bool (text.toList.all Unicode.isBlank))
  | equals, [other] => .ok (.bool (text == other))
  | contains, [part] => .ok (.bool (Text.occursIn part.toList text.toList))
  | matching, [pattern] => testMatching text pattern ""
  | matching, [pattern, flags] => testMatching text pattern flags
  | isIn, options => .ok (.bool (options.contains text))
  | isEmail, [] => .ok (.bool (Predicate.emailPattern.fullMatches text.toList))
  | isURL, [] => .ok (.bool (Predicate.urlPattern.fullMatches text.toList))
  | isAlpha, [] => .ok (.bool (Predicate.alphaPattern.fullMatches text.toList))
  | isAlphanumeric, [] => .ok (.bool (Predicate.alphanumericPattern.fullMatches text.toList))
  | isNumeric, [] => .ok (.bool (Predicate.numericPattern.fullMatches text.toList))
  | isInt, [] => testInt text none none
  | isInt, [low] => testInt text (some low) none
  | isInt, [low, high] => testInt text (some low) (some high)
  | isFloat, [] => testFloat text none none
  | isFloat, [low] => testFloat text (some low) none
  | isFloat, [low, high] => testFloat text (some low) (some high)
  | isBoolean, [] => .ok (.bool (Predicate.flagTexts.contains text))
  | isDate, [] => .ok (.bool (Date.isReadable text))
  | isUppercase, [] => .ok (.bool (Unicode.upper text.toList == text.toList))
  | isLowercase, [] => .ok (.bool (Unicode.lower text.toList == text.toList))
  | isLength, [] => testLength text (some "0") none
  | isLength, [low] => testLength text (some low) none
  | isLength, [low, high] => testLength text (some low) (some high)
  | minLength, [low] => testLength text (some low) none
  | maxLength, [high] => testLength text none (some high)
  | _, _ => .error .typeMismatch

/-- Whether a rule can be applied with a number of parameters. -/
def takes : StandardRule → Nat → Bool
  | equals, n | contains, n | minLength, n | maxLength, n => n == 1
  | matching, n => n == 1 || n == 2
  | isIn, _ => true
  | isInt, n | isFloat, n | isLength, n => n ≤ 2
  | _, n => n == 0

/-- What a rule with parameters answers for a value: the flag of a checkbox is an answer itself. -/
def test (r : StandardRule) (v : Value) (params : List String) : Outcome Value :=
  match r, v, params with
  | required, .bool b, [] => .ok (.bool b)
  | r, v, params => do
      if r.takes params.length then v.writable
      testText v.entryText r params

/-! ## Checks of parameters -/

def noParams : ParamCheck := Predicate.Arity.check ⟨"_no_params", none, some 0⟩

def oneParam : ParamCheck := Predicate.Arity.check ⟨"_one_param", some "param", some 1⟩

/-- Every parameter is read, in order. -/
def readAll {α : Type} (read : String → Outcome α) : List String → Outcome Unit
  | [] => .ok ()
  | p :: rest => do
      let _ ← read p
      readAll read rest

def oneInt : ParamCheck := fun params => do
  Predicate.Arity.check ⟨"_one_int", some "length", some 1⟩ params
  readAll readInteger params

def intBounds : ParamCheck := fun params => do
  Predicate.Arity.check ⟨"_int_bounds", none, some 2⟩ params
  readAll readInteger params

def floatBounds : ParamCheck := fun params => do
  Predicate.Arity.check ⟨"_float_bounds", none, some 2⟩ params
  readAll readDecimal params

/-- A text must be a pattern; it is checked without the flags it will be used with. -/
def checkPattern (text : String) : Outcome Unit :=
  match termsOf text Pattern.Flags.none with
  | .ok _ => .ok ()
  | .error (.pattern text fault) => .error (.patternParam text fault)
  | .error f => .error f

def patternAndFlags : ParamCheck := fun params => do
  Predicate.Arity.check ⟨"_pattern", some "pattern", some 2⟩ params
  match params with
  | [] => return
  | text :: _ => checkPattern text

/-- The check of a rule's parameters, if it has one. -/
def check? : StandardRule → Option ParamCheck
  | equals | contains => some oneParam
  | matching => some patternAndFlags
  | isIn => none
  | isInt | isLength => some intBounds
  | isFloat => some floatBounds
  | minLength | maxLength => some oneInt
  | _ => some noParams

/-- What is registered for a rule. -/
def registration (r : StandardRule) : Registration :=
  ⟨⟨none, r.test⟩, r.check?⟩

end StandardRule

end FormRules
