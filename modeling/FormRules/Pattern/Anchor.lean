import FormRules.Pattern.Character
/-!
# Places between characters

A pattern may ask for a place instead of a character: where the text or a line begins or ends, or
where a word does.  What is asked depends on the character before the place and on those after it.
-/
namespace FormRules.Pattern

/-- A place between characters. -/
inductive Anchor where
  | textStart
  | lineStart
  /-- The end, or before a line feed that ends the text. -/
  | lastLineEnd
  | lineEnd
  | textEnd
  | boundary (ascii : Bool)
  | noBoundary (ascii : Bool)
deriving DecidableEq, Repr

namespace Anchor

/-- Whether a word begins or ends between two characters, either of which may be missing. -/
def isWordEdge (ascii : Bool) (before after : Option Char) : Bool :=
  before.any (Category.word.holds ascii) != after.any (Category.word.holds ascii)

/-- Whether a place is of a kind, given the character before it, if there is one, and those after
it, of which two are enough.  A text without characters has neither word edges nor places that are
none. -/
def isAt (before : Option Char) (after : List Char) : Anchor → Bool
  | textStart => before.isNone
  | lineStart => before.all (· == '\n')
  | lastLineEnd => after.isEmpty || after == ['\n']
  | lineEnd => after.head?.all (· == '\n')
  | textEnd => after.isEmpty
  | boundary ascii =>
      (before.isSome || !after.isEmpty) && isWordEdge ascii before after.head?
  | noBoundary ascii =>
      (before.isSome || !after.isEmpty) && !isWordEdge ascii before after.head?

end Anchor

end FormRules.Pattern
