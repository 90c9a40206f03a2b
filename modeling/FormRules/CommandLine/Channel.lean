import FormRules.Text.HalfPair
import FormRules.Text.Quoted
/-!
# Lines on two channels

A command prints lines on two channels.  Sequences that control a terminal are taken out of what
it prints itself, but not out of warnings.  Half of a pair cannot be printed on the first channel,
and is written as a code on the second.  On both, a carriage return in front of the end of a line
is part of that end.
-/
namespace FormRules.CommandLine

/-- A line that a command prints. -/
inductive Line where
  | out (text : String)
  | err (text : String)
  | warning (text : String)
deriving DecidableEq, Repr

/-! ## Sequences that control a terminal -/

/-- Whether a character may be a parameter of a control sequence. -/
def isParameter (c : Char) : Bool := '0' ≤ c && c ≤ '?'

/-- Whether a character may stand behind the parameters of a control sequence. -/
def isIntermediate (c : Char) : Bool := ' ' ≤ c && c ≤ '/'

/-- Whether a character ends a control sequence. -/
def isFinal (c : Char) : Bool := '@' ≤ c && c ≤ '~'

/-- The number of characters of a control sequence behind its escape, if there is one. -/
def sequenceLength? : List Char → Option Nat
  | '[' :: rest =>
      let parameters := rest.takeWhile isParameter
      let rest := rest.drop parameters.length
      let intermediates := rest.takeWhile isIntermediate
      if (rest.drop intermediates.length).head?.any isFinal then
        some (parameters.length + intermediates.length + 2)
      else none
  | _ => none

/-- A text without control sequences, where `skipped` characters belong to one. -/
def withoutSequences (skipped : Nat) : List Char → List Char
  | [] => []
  | c :: rest =>
      match skipped with
      | n + 1 => withoutSequences n rest
      | 0 => match if c = '\x1b' then sequenceLength? rest else none with
        | some n => withoutSequences n rest
        | none => c :: withoutSequences 0 rest

/-- A text as it is printed. -/
def plainText (s : String) : String := String.ofList (withoutSequences 0 s.toList)

/-! ## Channels -/

namespace Line

/-- What a line adds to the first channel. -/
def out? : Line → Option String
  | out text => some (plainText text)
  | _ => none

/-- What a line adds to the second channel. -/
def err? : Line → Option String
  | err text => some (plainText text)
  | warning text => some text
  | out _ => none

/-- Whether a line can be printed. -/
def isPrintable : Line → Bool
  | out text => !Text.holdsHalf (plainText text).toList
  | _ => true

end Line

/-- A text in which halves of pairs are written as codes. -/
def codedHalves (s : List Char) : List Char :=
  s.flatMap fun c => match Text.halfPair? c with
    | some code => Text.codePoint code
    | none => [c]

/-- A text whose lines end without carriage returns. -/
def plainEnds : List Char → List Char
  | [] => []
  | '\r' :: '\n' :: rest => '\n' :: plainEnds rest
  | c :: rest => c :: plainEnds rest

/-- The text on the first channel. -/
def outText (lines : List Line) : String :=
  String.ofList (plainEnds ((lines.filterMap Line.out?).flatMap fun l => l.toList ++ ['\n']))

/-- The text on the second channel. -/
def errText (lines : List Line) : String :=
  String.ofList
    (plainEnds ((lines.filterMap Line.err?).flatMap fun l => codedHalves l.toList ++ ['\n']))

end FormRules.CommandLine
