import FormRules.Number.Numeral
import FormRules.Text.Quoted
/-!
# What is wrong with a pattern

A fault has a cause and, except for a few, a position in the pattern.  Its wording ends with the
position, and in a pattern of several lines also with line and column.
-/
namespace FormRules.Pattern

/-- Causes of a fault.  Texts are pieces of the pattern. -/
inductive Cause where
  | endsInBackslash
  | badEscape (escape : String)
  | incompleteEscape (escape : String)
  | octalTooLarge (escape : String)
  | missing (what : String)
  | unterminatedName (terminator : String)
  | undefinedCharacter (name : String)
  | openGroup
  | groupOfSameLookBehind
  | invalidGroup (index : Nat)
  | unterminatedSet
  | badRange (low high : String)
  | nothingToRepeat
  | multipleRepeat
  | bounds
  | unexpectedEnd
  | unknownExtension (text : String)
  | unterminatedComment
  | unterminatedGroup
  | badGroupName (name : String)
  | unknownGroup (name : String)
  | groupRedefined (name : String) (index first : Nat)
  | badGroupNumber
  | threeBranches
  | unbalanced
  | flagsNotAtStart
  | unknownFlag
  | localeFlag
  | conflictingFlags
  | cannotTurnOn
  | cannotTurnOff
  | cannotTurnOffCharacterFlags
  | turnedOnAndOff
  | variableLookBehind
  | repeatInTemplate (operator : String)
deriving DecidableEq, Repr

/-- The wording of a cause. -/
def Cause.message : Cause → String
  | .endsInBackslash => "bad escape (end of pattern)"
  | .badEscape e => "bad escape " ++ e
  | .incompleteEscape e => "incomplete escape " ++ e
  | .octalTooLarge e => "octal escape value " ++ e ++ " outside of range 0-0o377"
  | .missing what => "missing " ++ what
  | .unterminatedName t => "missing " ++ t ++ ", unterminated name"
  | .undefinedCharacter name => "undefined character name " ++ Text.quote name
  | .openGroup => "cannot refer to an open group"
  | .groupOfSameLookBehind => "cannot refer to group defined in the same lookbehind subpattern"
  | .invalidGroup n => "invalid group reference " ++ toString n
  | .unterminatedSet => "unterminated character set"
  | .badRange low high => "bad character range " ++ low ++ "-" ++ high
  | .nothingToRepeat => "nothing to repeat"
  | .multipleRepeat => "multiple repeat"
  | .bounds => "min repeat greater than max repeat"
  | .unexpectedEnd => "unexpected end of pattern"
  | .unknownExtension t => "unknown extension ?" ++ t
  | .unterminatedComment => "missing ), unterminated comment"
  | .unterminatedGroup => "missing ), unterminated subpattern"
  | .badGroupName name => "bad character in group name " ++ Text.quote name
  | .unknownGroup name => "unknown group name " ++ Text.quote name
  | .groupRedefined name index first =>
      "redefinition of group name " ++ Text.quote name ++ " as group " ++ toString index ++
        "; was group " ++ toString first
  | .badGroupNumber => "bad group number"
  | .threeBranches => "conditional backref with more than two branches"
  | .unbalanced => "unbalanced parenthesis"
  | .flagsNotAtStart => "global flags not at the start of the expression"
  | .unknownFlag => "unknown flag"
  | .localeFlag => "bad inline flags: cannot use 'L' flag with a str pattern"
  | .conflictingFlags => "bad inline flags: flags 'a', 'u' and 'L' are incompatible"
  | .cannotTurnOn => "bad inline flags: cannot turn on global flag"
  | .cannotTurnOff => "bad inline flags: cannot turn off global flag"
  | .cannotTurnOffCharacterFlags => "bad inline flags: cannot turn off flags 'a', 'u' and 'L'"
  | .turnedOnAndOff => "bad inline flags: flag turned on and off"
  | .variableLookBehind => "look-behind requires fixed-width pattern"
  | .repeatInTemplate op => "internal: unsupported template operator " ++ op

/-- A fault of a pattern: its cause and where it was noticed. -/
structure Fault where
  cause : Cause
  position : Option Nat
deriving DecidableEq, Repr

/-- Line and column of a position, both counted from 1. -/
def lineAndColumn (pattern : List Char) (position : Nat) : Nat × Nat :=
  let before := pattern.take position
  (before.count '\n' + 1, (before.reverse.takeWhile (· != '\n')).length + 1)

/-- The wording of a fault of the given pattern. -/
def Fault.message (f : Fault) (pattern : String) : String :=
  match f.position with
  | none => f.cause.message
  | some p =>
      let text := f.cause.message ++ " at position " ++ toString p
      if pattern.toList.contains '\n' then
        let (line, column) := lineAndColumn pattern.toList p
        text ++ " (line " ++ toString line ++ ", column " ++ toString column ++ ")"
      else text

/-- Why a text is no pattern: a fault in it, a number of too many digits, a repetition count
beyond what can be counted, or two ways of comparing characters at once. -/
inductive Rejection where
  | fault (f : Fault)
  | numeral (f : NumeralFault)
  | countTooLarge
  | incompatibleFlags
deriving DecidableEq, Repr

end FormRules.Pattern
