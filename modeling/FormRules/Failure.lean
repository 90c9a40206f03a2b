import FormRules.Number.Numeral
import FormRules.Pattern.Fault
import FormRules.Value.Text
/-!
# Failures

A value that breaks a rule is no failure: that is recorded with the form.  A failure says that
something could not be done at all, and each has one cause.  `kind` sorts the causes as callers
tell them apart, `message` gives their wording.
-/
namespace FormRules

/-- What is wrong with how a form, a field, a rule or a definition is set up. -/
inductive ConfigurationFault where
  | emptyRuleName (rules : String)
  | emptyParam (rule rules : String)
  | unknownRule (rule registry : String) (available : List String)
  | rejectedParams (rule : String) (params : List String) (reason : String)
  | namelessField
  | noAcceptCallback
  | unknownOption (name : String)
  | optionsTwice (names : List String)
  | unreadable (path : String)
  | noForm (path : String)
  | fieldsNotList (path : String)
  | entryNotMapping (path : String) (entry : Value)
  | namelessEntry (path : String)
deriving Inhabited

namespace ConfigurationFault

/-- The wording of a fault. -/
def message : ConfigurationFault → String
  | .emptyRuleName rules => "Empty rule name in rule string '" ++ rules ++ "'"
  | .emptyParam rule rules =>
      "Empty parameter for rule '" ++ rule ++ "' in rule string '" ++ rules ++ "'"
  | .unknownRule rule registry available =>
      "Invalid input validation rule \"" ++ rule ++ "\" for the " ++ registry ++
        " registry. Available rules: " ++ ", ".intercalate available
  | .rejectedParams rule params reason =>
      "Invalid parameters " ++ Text.quoteList params ++ " for validation rule \"" ++ rule ++
        "\": " ++ reason
  | .namelessField => "Can not add input without \"name\" attribute"
  | .noAcceptCallback => "Form requires an on_valid_submit callback"
  | .unknownOption name => "Unknown form option '" ++ name ++ "'"
  | .optionsTwice names =>
      "Pass form options either as a FormConfig or as keyword arguments, not both (got " ++
        ", ".intercalate names ++ ")"
  | .unreadable path => path ++ ": YAML parse error"
  | .noForm path => path ++ " does not contain a form definition"
  | .fieldsNotList path => path ++ ": 'fields' must be a list"
  | .entryNotMapping path entry =>
      path ++ ": field entry " ++ entry.shown ++ " must be a mapping with a \"name\""
  | .namelessEntry path => path ++ ": can not add input without \"name\" attribute"

end ConfigurationFault

/-- A function got the wrong number of parameters. -/
inductive ArityFault where
  | missing (function param : String)
  | tooMany (function : String) (least most given : Nat)
  /-- A check of a client's own that wants a certain number. -/
  | expected (count : Nat)
deriving DecidableEq, Repr

/-- The wording of a wrong number of parameters. -/
def ArityFault.message : ArityFault → String
  | .missing function param =>
      function ++ "() missing 1 required positional argument: '" ++ param ++ "'"
  | .tooMany function least most given =>
      let bounds :=
        if least = most then
          toString most ++ " positional argument" ++ (if most = 1 then "" else "s")
        else "from " ++ toString least ++ " to " ++ toString most ++ " positional arguments"
      function ++ "() takes " ++ bounds ++ " but " ++ toString given ++
        (if given = 1 then " was given" else " were given")
  | .expected count => "expected " ++ toString count ++ " parameter(s)"

namespace Failure

/-- How callers tell failures apart. -/
inductive Kind where
  | configuration
  | ambiguousField
  | value
  | key
  | overflow
  | type
  | attribute
  | assertion
  | pattern
  | index
  | nesting
deriving DecidableEq, Repr

end Failure

/-- Why something could not be done. -/
inductive Failure where
  | configuration (fault : ConfigurationFault)
  /-- Several fields are registered under a name. -/
  | ambiguous (name : Value) (count : Nat)
  /-- No field is registered under a name. -/
  | notRegistered (name : Value)
  /-- A mapping lacks an entry. -/
  | noEntry (key : Value)
  | numeral (fault : NumeralFault)
  | fileSize (text : String)
  | pattern (text : String) (fault : Pattern.Fault)
  /-- The same fault, noticed while the parameters of a rule are checked. -/
  | patternParam (text : String) (fault : Pattern.Fault)
  | incompatibleFlags
  | countTooLarge
  | infiniteInteger
  | undefinedInteger
  | integerTooLarge
  /-- An integer of too many digits is to be written. -/
  | longInteger
  /-- A number that is no byte. -/
  | byteTooLarge
  /-- A position that a sequence does not have. -/
  | noItem
  /-- An item of a sequence cannot be an entry of a mapping. -/
  | entrySize (index size : Nat)
  | moment (fault : Moment.Fault)
  /-- A number that stands for no character. -/
  | notCharacter
  | characterTooLarge
  | arity (fault : ArityFault)
  /-- An operation on a value of the wrong kind. -/
  | typeMismatch
  | noAttribute
  /-- No tier of validation applies to a field. -/
  | noTier
  /-- A client's own function failed. -/
  | raised (kind : Failure.Kind) (message : String)
  /-- Calls of the client's functions are nested too deeply. -/
  | nestingLimit
deriving Inhabited

namespace Failure

def kind : Failure → Kind
  | .configuration _ => .configuration
  | .ambiguous .. => .ambiguousField
  | .notRegistered _ | .noEntry _ => .key
  | .numeral .missing | .noItem => .index
  | .numeral _ | .fileSize _ | .patternParam .. | .incompatibleFlags | .undefinedInteger
  | .entrySize .. | .moment _ | .notCharacter | .longInteger | .byteTooLarge => .value
  | .pattern .. => .pattern
  | .countTooLarge | .infiniteInteger | .integerTooLarge | .characterTooLarge => .overflow
  | .arity _ | .typeMismatch => .type
  | .noAttribute => .attribute
  | .noTier => .assertion
  | .raised k _ => k
  | .nestingLimit => .nesting

/-- The wording of a failure. -/
def message : Failure → String
  | .configuration fault => fault.message
  | .ambiguous name count =>
      "Multiple inputs use the same name \"" ++ name.text ++ "\" (" ++ toString count ++
        " registered)"
  | .notRegistered name => "No field registered under the name '" ++ name.text ++ "'"
  | .noEntry key => key.text
  | .numeral fault => fault.message
  | .fileSize text => "Invalid file size '" ++ text ++ "'"
  | .pattern text fault => fault.message text
  | .patternParam text fault => "invalid pattern '" ++ text ++ "': " ++ fault.message text
  | .incompatibleFlags => "ASCII and UNICODE flags are incompatible"
  | .countTooLarge => "the repetition number is too large"
  | .infiniteInteger => "cannot convert float infinity to integer"
  | .undefinedInteger => "cannot convert float NaN to integer"
  | .integerTooLarge => "int too large to convert to float"
  | .longInteger =>
      "Exceeds the limit (" ++ toString Value.digitLimit ++
        " digits) for integer string conversion; use sys.set_int_max_str_digits() to increase the limit"
  | .byteTooLarge => "byte must be in range(0, 256)"
  | .noItem => ""
  | .entrySize index size =>
      "dictionary update sequence element #" ++ toString index ++ " has length " ++
        toString size ++ "; 2 is required"
  | .moment fault => fault.message
  | .notCharacter => "chr() arg not in range(0x110000)"
  | .characterTooLarge => "Python int too large to convert to C int"
  | .arity fault => fault.message
  | .typeMismatch => ""
  | .noAttribute => ""
  | .noTier => ""
  | .raised _ message => message
  | .nestingLimit => ""

/-- A rule may reject its parameters by a value or a type failure; others pass through. -/
def isRejection (f : Failure) : Bool :=
  match f.kind with
  | .configuration | .value | .type => true
  | _ => false

end Failure

/-- A result or a failure. -/
abbrev Outcome (α : Type) := Except Failure α

/-- A configuration fault as an outcome. -/
def misconfigured {α : Type} (fault : ConfigurationFault) : Outcome α :=
  .error (.configuration fault)

/-- A reading of a numeral as an outcome. -/
def readInteger (text : String) : Outcome Int := (Numeral.readInt text).mapError .numeral

/-- A reading of a decimal as an outcome. -/
def readDecimal (text : String) : Outcome Binary64 := (Numeral.readDecimal text).mapError .numeral

/-- A value must have a text. -/
def Value.writable (v : Value) : Outcome Unit :=
  if v.holdsLongInteger then .error .longInteger else .ok ()

/-- The binary number nearest to an integer that is not beyond all of them. -/
def nearestBinary (n : Int) : Outcome Binary64 :=
  match Binary64.ofInt n with
  | .infinite _ => .error .integerTooLarge
  | x => .ok x

end FormRules
