import FormRules.Pattern.Term
/-!
# Instructions

Terms are carried out as instructions, one behind the other.  Groups become marks at their two
ends, a repetition of one test is an instruction of its own, and an alternative ends by passing to
what stands behind all of them.  An instruction list that ends says that what it describes has been
found.  Tests are settled: one that does not depend on case compares characters as they are.
-/
namespace FormRules.Pattern

/-- An instruction of the matching machine.  Group `i` lies between the marks `2 * i - 2` and
`2 * i - 1`. -/
inductive Instruction where
  | char (test : CharTest)
  | anchor (place : Anchor)
  | again (index : Nat) (folding : Folding)
  | mark (number : Nat)
  | branch (alternatives : List (List Instruction))
  /-- A repetition of one test. -/
  | run (style : Style) (least : Nat) (most : Option Nat) (test : CharTest)
  /-- A repetition that may give back; its rounds end with `next`. -/
  | loop (isLazy : Bool) (least : Nat) (most : Option Nat) (body : List Instruction)
  | next
  /-- A repetition that never gives back. -/
  | hold (least : Nat) (most : Option Nat) (body : List Instruction)
  | atomic (body : List Instruction)
  /-- A condition on what follows `back` characters before the position. -/
  | look (negated : Bool) (back : Nat) (body : List Instruction)
  | choose (index : Nat) (present absent : List Instruction)
  /-- Go on behind the alternatives. -/
  | pass
deriving Inhabited

/-! ## From terms -/

namespace Term

mutual

/-- The test that a term is, perhaps in a group without an index. -/
def test? : Term → Option CharTest
  | char t => some t
  | group none _ body => testOf? body
  | _ => none

/-- The test that is all of the given terms. -/
def testOf? : List Term → Option CharTest
  | [] => none
  | t :: rest => if rest.isEmpty then t.test? else none

end

mutual

/-- The instructions of a term. -/
def instructions : Term → List Instruction
  | char t => [.char t.settled]
  | anchor a => [.anchor a]
  | again index f _ => [.again index f]
  | group none _ body => instructionsOf body
  | group (some index) _ body =>
      .mark (2 * index - 2) :: (instructionsOf body ++ [.mark (2 * index - 1)])
  | loop style least most body =>
      match testOf? body, style with
      | some t, _ => [.run style least most t.settled]
      | none, .greedy => [.loop false least most (instructionsOf body)]
      | none, .lazy => [.loop true least most (instructionsOf body)]
      | none, .possessive => [.hold least most (instructionsOf body)]
  | branch alternatives => [.branch (instructionsOfAny alternatives)]
  | ahead negated body => [.look negated 0 (instructionsOf body)]
  | behind negated body => [.look negated (widthOf body).least (instructionsOf body)]
  | atomic body => [.atomic (instructionsOf body)]
  | choose index present absent =>
      match absent with
      | none => [.choose index (instructionsOf present) []]
      | some absent =>
          if absent.isEmpty then [.choose index (instructionsOf present) []]
          else [.choose index (instructionsOf present ++ [.pass]) (instructionsOf absent)]

/-- The instructions of terms one behind the other. -/
def instructionsOf : List Term → List Instruction
  | [] => []
  | t :: rest => t.instructions ++ instructionsOf rest

/-- The instructions of alternatives. -/
def instructionsOfAny : List (List Term) → List (List Instruction)
  | [] => []
  | ts :: rest => (instructionsOf ts ++ [.pass]) :: instructionsOfAny rest

end

end Term

/-! ## Length of a way -/

namespace Instruction

mutual

/-- How many instructions can follow one another, at most, where this one is carried out on a text
of `size` characters.  A round that begins where the one before it began is the last one, so a loop
has no more rounds beyond the required ones than there are positions, and one. -/
def steps (size : Nat) : Instruction → Nat
  | branch alternatives => 1 + stepsOfAny size alternatives
  | loop _ least _ body => 2 + (least + size + 2) * (stepsOf size body + 1)
  | hold _ _ body => 1 + stepsOf size body
  | atomic body => 1 + stepsOf size body
  | look _ _ body => 1 + stepsOf size body
  | choose _ present absent => 1 + stepsOf size present + stepsOf size absent
  | char _ | anchor _ | again .. | mark _ | run .. | next | pass => 1

/-- How many instructions can follow one another in a list. -/
def stepsOf (size : Nat) : List Instruction → Nat
  | [] => 0
  | i :: rest => i.steps size + stepsOf size rest

/-- How many instructions can follow one another in one of several lists. -/
def stepsOfAny (size : Nat) : List (List Instruction) → Nat
  | [] => 0
  | code :: rest => stepsOf size code + stepsOfAny size rest

end

/-! ## First characters -/

/-- Whether an instruction list may go on with a character, or with the end of the text, as far as
its first instruction tells when that is a single character compared as it is. -/
def mayFollow (c : Option Char) : List Instruction → Bool
  | char (.single false n .exact) :: _ => c.any fun c => Text.codeOf c == n
  | _ => true

/-- The same for an alternative, where a set that compares characters as they are tells as well. -/
def mayBegin (c : Option Char) : List Instruction → Bool
  | char (.set complement items .exact) :: _ =>
      c.any (CharTest.accepts · (.set complement items .exact))
  | code => mayFollow c code

end Instruction

end FormRules.Pattern
