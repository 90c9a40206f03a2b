/-!
# Similar texts

The similarity of two texts is the share of their characters that lie in common blocks: the
longest common block, and then the same on both sides of it.  Of blocks of one length the one that
comes first in the first text counts, and then the one that comes first in the second.
-/
namespace FormRules.Text

/-- The length of the common start of two texts. -/
def commonStart : List Char → List Char → Nat
  | a :: s, b :: t => if a = b then commonStart s t + 1 else 0
  | _, _ => 0

/-- A common block: where it starts in either text, and its length. -/
structure Block where
  first : Nat
  second : Nat
  length : Nat
deriving DecidableEq, Repr

/-- The longest common block. -/
def longestBlock (s t : List Char) : Block :=
  let places := (List.range s.length).flatMap fun i => (List.range t.length).map fun j => (i, j)
  places.foldl (fun best p =>
    let n := commonStart (s.drop p.1) (t.drop p.2)
    if best.length < n then ⟨p.1, p.2, n⟩ else best) ⟨0, 0, 0⟩

/-- The number of characters in common blocks. -/
def commonChars : Nat → List Char → List Char → Nat
  | 0, _, _ => 0
  | fuel + 1, s, t =>
      let b := longestBlock s t
      if b.length = 0 then 0
      else
        commonChars fuel (s.take b.first) (t.take b.second) + b.length +
          commonChars fuel (s.drop (b.first + b.length)) (t.drop (b.second + b.length))

/-- Whether at least three fifths of the characters of two texts lie in common blocks. -/
def areSimilar (s t : List Char) : Bool :=
  3 * (s.length + t.length) ≤ 5 * (2 * commonChars (s.length + 1) s t)

end FormRules.Text
