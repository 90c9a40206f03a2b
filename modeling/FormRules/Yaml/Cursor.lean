/-!
# Places in a text

A cursor is a place in a text: what follows it, how many characters stand before it, and its line
and column.  Behind the end there is nothing but a mark that no text holds.  A text may be cut short
because of a character that no document can hold; whoever comes to the end of such a text has met
that character.
-/
namespace FormRules.Yaml

/-- What the end of a text reads as. -/
def endMark : Char := '\x00'

/-- Whether a character ends a line. -/
def isBreak (c : Char) : Bool := c = '\n' || c = '\x85' || c = '\u2028' || c = '\u2029'

/-- Whether a line cannot go on with a character. -/
def endsLine (c : Char) : Bool := c = endMark || isBreak c

/-- Whether a character is a space or ends the line. -/
def isSpaceOrEnd (c : Char) : Bool := c = ' ' || endsLine c

/-- Whether a character is a space or a tab or ends the line. -/
def isBlankOrEnd (c : Char) : Bool := c = '\t' || isSpaceOrEnd c

/-- Whether a character is a space or a tab. -/
def isBlank (c : Char) : Bool := c = ' ' || c = '\t'

/-- A place in a text. -/
structure Cursor where
  rest : List Char
  index : Nat
  line : Nat
  column : Nat
  /-- The character because of which the text is cut short. -/
  barrier : Option Char
deriving Repr, Inhabited

namespace Cursor

/-- The start of a text. -/
def ofText (s : List Char) (barrier : Option Char) : Cursor := ⟨s, 0, 0, 0, barrier⟩

/-- The character that cannot be read, if the cursor has come to it. -/
def unreadable? (c : Cursor) : Option Char := if c.rest.isEmpty then c.barrier else none

/-- The character at the cursor. -/
def peek (c : Cursor) : Char := c.rest.headD endMark

/-- The character some places behind the cursor. -/
def peekAt (c : Cursor) (k : Nat) : Char := (c.rest.drop k).headD endMark

/-- The next place.  A byte order mark takes no column. -/
def next (c : Cursor) : Cursor :=
  match c.rest with
  | [] => c
  | x :: rest =>
      if isBreak x then ⟨rest, c.index + 1, c.line + 1, 0, c.barrier⟩
      else if x = '\ufeff' then ⟨rest, c.index + 1, c.line, c.column, c.barrier⟩
      else ⟨rest, c.index + 1, c.line, c.column + 1, c.barrier⟩

/-- The place some characters further. -/
def skip : Nat → Cursor → Cursor
  | 0, c => c
  | n + 1, c => skip n c.next

/-- The characters up to the first one without a property, and the place of that one. -/
def span (p : Char → Bool) (c : Cursor) : List Char × Cursor :=
  let taken := c.rest.takeWhile p
  (taken, c.skip taken.length)

/-- The place of the first character without a property. -/
def skipWhile (p : Char → Bool) (c : Cursor) : Cursor := (c.span p).2

/-- The end of a line at the cursor, as it counts in scalars, and the start of the next line. -/
def takeBreak? (c : Cursor) : Option (Char × Cursor) :=
  if c.peek = '\n' || c.peek = '\x85' then some ('\n', c.next)
  else if c.peek = '\u2028' || c.peek = '\u2029' then some (c.peek, c.next)
  else none

/-- The place behind the end of a line, if there is one at the cursor. -/
def skipBreak (c : Cursor) : Cursor :=
  match c.takeBreak? with
  | some (_, next) => next
  | none => c

/-- The place of the end of the line. -/
def lineEnd (c : Cursor) : Cursor := c.skipWhile fun x => !endsLine x

/-- The place of the end of the line if a comment starts at the cursor. -/
def skipComment (c : Cursor) : Cursor := if c.peek = '#' then c.lineEnd else c

/-- Whether three characters stand at the cursor, with a blank or the end behind them. -/
def isAtMarker (c : Cursor) (x : Char) : Bool :=
  [x, x, x].isPrefixOf c.rest && isBlankOrEnd (c.peekAt 3)

/-- Whether a document's start or end is marked at the cursor. -/
def isAtDocumentMarker (c : Cursor) : Bool := c.isAtMarker '-' || c.isAtMarker '.'

@[simp] theorem skip_zero (c : Cursor) : c.skip 0 = c := rfl

@[simp] theorem skip_succ (n : Nat) (c : Cursor) : c.skip (n + 1) = c.next.skip n := rfl

@[simp] theorem rest_next (c : Cursor) : c.next.rest = c.rest.tail := by
  obtain ⟨rest, index, line, column, barrier⟩ := c
  cases rest with
  | nil => rfl
  | cons x rest => simp only [next]; split <;> (try split) <;> rfl

@[simp] theorem rest_skip (n : Nat) (c : Cursor) : (c.skip n).rest = c.rest.drop n := by
  induction n generalizing c with
  | zero => rfl
  | succ n ih => simp [ih, List.drop_tail]

end Cursor

end FormRules.Yaml
