import FormRules.Pattern.Anchor
/-!
# Terms

What a user writes as a pattern is read into terms, one behind the other.

    char, anchor          a test of one character, a place
    (x)   (?:x)           a group, with or without an index
    \1   (?(1)x|y)        a group's text again, a choice by whether it took part
    x|y   x{m,n}          alternatives, repetition
    (?=x) (?<!x) (?>x)    conditions, and no second thoughts about `x`

Where case is ignored, that is noted at each test.  From its terms follows how many characters a
pattern can take.
-/
namespace FormRules.Pattern

/-- How a repetition goes on: as often as possible first, as rarely as possible first, or as often
as possible without ever giving back. -/
inductive Style where
  | greedy
  | lazy
  | possessive
deriving DecidableEq, Repr

/-! ## Widths -/

/-- The largest number of repetitions that can be counted, plus one. -/
def countLimit : Nat := 4294967295

/-- How many characters a pattern takes.  The least number stays below the limit of counting, the
greatest one may reach it and then says that there is no bound. -/
structure Width where
  least : Nat
  most : Nat
deriving DecidableEq, Repr

namespace Width

/-- A width within the limit. -/
def within (least most : Nat) : Width := ⟨min least (countLimit - 1), min most countLimit⟩

def exactly (n : Nat) : Width := within n n

/-- One after the other. -/
def plus (v w : Width) : Width := within (v.least + w.least) (v.most + w.most)

/-- One or the other. -/
def either (v w : Width) : Width := ⟨min v.least w.least, max v.most w.most⟩

/-- Repeated; what takes nothing takes nothing however often. -/
def times (w : Width) (least : Nat) (most : Option Nat) : Width :=
  within (w.least * least) (w.most * most.getD countLimit)

/-- The one number of characters, if there is only one. -/
def fixed? (w : Width) : Option Nat := if w.most = w.least then some w.least else none

end Width

/-! ## Terms -/

/-- A piece of a pattern as it was written.  A group that changes how its own text is
read is noted as a switch; a reference to a group knows the width of that group. -/
inductive Term where
  | char (test : CharTest)
  | anchor (place : Anchor)
  | again (index : Nat) (folding : Folding) (width : Width)
  | group (index : Option Nat) (isSwitch : Bool) (body : List Term)
  | loop (style : Style) (least : Nat) (most : Option Nat) (body : List Term)
  | branch (alternatives : List (List Term))
  | ahead (negated : Bool) (body : List Term)
  | behind (negated : Bool) (body : List Term)
  | atomic (body : List Term)
  | choose (index : Nat) (present : List Term) (absent : Option (List Term))
deriving Inhabited

namespace Term

mutual

/-- How many characters a term takes. -/
def width : Term → Width
  | char _ => .exactly 1
  | anchor _ => .exactly 0
  | again _ _ w => w
  | group _ _ body => widthOf body
  | loop _ least most body => (widthOf body).times least most
  | branch alternatives => widthOfAny alternatives
  | ahead .. => .exactly 0
  | behind .. => .exactly 0
  | atomic body => widthOf body
  | choose _ present none => (widthOf present).either (.exactly 0)
  | choose _ present (some absent) => (widthOf present).either (widthOf absent)

/-- How many characters terms take one behind the other. -/
def widthOf : List Term → Width
  | [] => .exactly 0
  | t :: rest => t.width.plus (widthOf rest)

/-- How many characters alternatives take. -/
def widthOfAny : List (List Term) → Width
  | [] => .exactly 0
  | [ts] => widthOf ts
  | ts :: rest => (widthOf ts).either (widthOfAny rest)

end

/-! ## Alternatives -/

/-- Whether two terms are the same test, place or reference.  Terms with terms inside are never
taken to be the same. -/
def isSame : Term → Term → Bool
  | char s, char t => s == t
  | anchor a, anchor b => a == b
  | again i f v, again j g w => i == j && f == g && v == w
  | _, _ => false

/-- The first term of every alternative, if all begin with the same one. -/
def commonFirst? : List (List Term) → Option Term
  | (t :: _) :: rest => if rest.all fun ts => ts.head?.any t.isSame then some t else none
  | _ => none

/-- The terms that all alternatives begin with, and what is left of the alternatives.  `fuel` is
the number of terms of the first one. -/
def splitCommon : Nat → List (List Term) → List Term × List (List Term)
  | 0, alternatives => ([], alternatives)
  | fuel + 1, alternatives =>
      match commonFirst? alternatives with
      | some t =>
          let (common, rest) := splitCommon fuel (alternatives.map List.tail)
          (t :: common, rest)
      | none => ([], alternatives)

/-- The members of the set that an alternative stands for, if it is one test that a set can make:
the folding is that of the test. -/
def members? : List Term → Option (List Item × Folding)
  | [char (.single false n f)] => some ([.single n], f)
  | [char (.set false items f)] => some (items, f)
  | _ => none

/-- One set instead of alternatives that each are a test which a set can make. -/
def asSet? (alternatives : List (List Term)) : Option Term := do
  let parts ← alternatives.mapM members?
  let (_, f) ← parts.head?
  return char (.set false (parts.flatMap (·.1)).eraseDups f)

/-- Alternatives as terms: what all begin with stands before the choice, and a choice between
characters is a set. -/
def either (alternatives : List (List Term)) : List Term :=
  match alternatives with
  | [ts] => ts
  | _ =>
      let (common, rest) := splitCommon (alternatives.headD []).length alternatives
      common ++ [(asSet? rest).getD (branch rest)]

/-! ## Sequences -/

/-- The terms of groups that only hold things together, in place of those groups. -/
def unwrapped (ts : List Term) : List Term :=
  ts.flatMap fun
    | group none false body => body
    | t => [t]

/-- What a repetition of a term repeats: a group that only holds things together is left out. -/
def repeated : Term → List Term
  | group none false body => body
  | t => [t]

end Term

end FormRules.Pattern
