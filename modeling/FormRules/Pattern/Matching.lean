import FormRules.Pattern.Basic
/-!
# Matching

A pattern is matched from a spot in a text.  What has to match afterwards is handed along as a
function, so that a choice is taken back when the rest fails: alternatives from left to right,
more rounds of a repetition before fewer.
-/
namespace FormRules.Pattern

/-- A spot in a text: the text before it, read backwards, and the text after it. -/
structure Spot where
  before : List Char
  after : List Char
deriving DecidableEq, Repr

/-- What has to match afterwards. -/
abbrev Next := Spot → Option Spot

namespace Spot

/-- The spot at the start of a text. -/
def start (s : List Char) : Spot := ⟨[], s⟩

/-- The next character, and the spot behind it. -/
def advance? (s : Spot) : Option (Char × Spot) :=
  match s.after with
  | [] => none
  | c :: rest => some (c, ⟨c :: s.before, rest⟩)

/-- Whether the spot is such a place. -/
def isAt (s : Spot) (a : Anchor) : Bool := a.isAt s.before.head? s.after

end Spot

/-! ## Repetitions -/

/-- Exactly `n` rounds. -/
def rounds (body : Spot → Next → Option Spot) : Nat → Spot → Next → Option Spot
  | 0, s, k => k s
  | n + 1, s, k => body s fun s' => rounds body n s' k

/-- Further rounds while they can be had, fewer ones when the rest fails.  `budget` bounds their
number, and a round that takes no character is the last one, so that `fuel` need not exceed the
number of characters left by more than one. -/
def furtherRounds (body : Spot → Next → Option Spot) :
    (fuel : Nat) → (budget : Option Nat) → Spot → Next → Option Spot
  | 0, _, s, k => k s
  | fuel + 1, budget, s, k =>
      if budget = some 0 then k s
      else
        match body s fun s' =>
            if s'.after.length < s.after.length then
              furtherRounds body fuel (budget.map (· - 1)) s' k
            else k s' with
        | some done => some done
        | none => k s

/-! ## Patterns -/

/-- Match a pattern from a spot, and then what has to match afterwards. -/
def run : Pattern → Spot → Next → Option Spot
  | .empty, s, k => k s
  | .char test, s, k => match s.advance? with
    | some (c, s') => if test.accepts c then k s' else none
    | none => none
  | .cat p q, s, k => run p s fun s' => run q s' k
  | .alt p q, s, k => match run p s k with
    | some done => some done
    | none => run q s k
  | .loop least most p, s, k => rounds (run p) least s fun s' =>
      furtherRounds (run p) (s'.after.length + 1) (most.map (· - least)) s' k
  | .anchor a, s, k => if s.isAt a then k s else none

/-- Whether the pattern describes the whole text. -/
def fullMatches (p : Pattern) (s : List Char) : Bool :=
  (p.run (.start s) fun s' => if s'.after.isEmpty then some s' else none).isSome

/-- Whether the pattern matches from a spot or from a later one. -/
def matchesFrom (p : Pattern) : Nat → Spot → Bool
  | fuel, s =>
      (p.run s some).isSome || match fuel, s.advance? with
        | fuel + 1, some (_, s') => matchesFrom p fuel s'
        | _, _ => false

/-- Whether the pattern describes some part of the text. -/
def search (p : Pattern) (s : List Char) : Bool := p.matchesFrom s.length (.start s)

end FormRules.Pattern
