import FormRules.Number.Numeral
import FormRules.Yaml.Cursor
import FormRules.Yaml.Fault
/-!
# Reading scalars

A plain scalar goes on over lines as long as they are indented; a quoted one ends with its quote;
a block scalar is made of the lines behind its header.  In plain and quoted scalars the end of a
line counts as a space, and as nothing when empty lines follow, each of which counts as the end
of a line.
-/
namespace FormRules.Yaml

/-- A fault of characters that was noticed at a place. -/
def badToken {α : Type} (fault : TokenFault) (c : Cursor) : Except Fault α :=
  match c.unreadable? with
  | some x => .error (.character x)
  | none => .error (.token fault)

/-- How the end of a line and the ends of the empty lines behind it count in a scalar. -/
def foldBreaks (first : Char) (more : List Char) : List Char :=
  if first != '\n' then first :: more
  else if more.isEmpty then [' ']
  else more

/-! ## Plain scalars -/

/-- Whether a character is one of those that structure flow collections. -/
def isFlowIndicator (c : Char) : Bool :=
  c = ',' || c = '[' || c = ']' || c = '\x7b' || c = '\x7d'

/-- The characters of a plain scalar up to a blank or to what ends it.  A colon ends it in front
of a blank. -/
def plainRun (flow : Bool) : List Char → List Char
  | [] => []
  | c :: rest =>
      let following := rest.headD endMark
      if isBlankOrEnd c then []
      else if c = ':' && (isBlankOrEnd following || (flow && isFlowIndicator following)) then []
      else if flow && (c = '?' || isFlowIndicator c) then []
      else c :: plainRun flow rest

/-- The ends of empty lines, and whether the line behind them marks a document. -/
def plainBreaks : Nat → Cursor → List Char × Bool × Cursor
  | 0, c => ([], false, c)
  | fuel + 1, c =>
      let c := c.skipWhile (· = ' ')
      match c.takeBreak? with
      | none => ([], false, c)
      | some (b, c) =>
          if c.isAtDocumentMarker then ([b], true, c)
          else
            let (more, marked, c) := plainBreaks fuel c
            (b :: more, marked, c)

/-- What lies between two runs of a plain scalar. -/
structure PlainGap where
  /-- The characters that it counts as; without any the scalar ends. -/
  text : List Char
  /-- Whether a line ends in it. -/
  overLines : Bool
  cursor : Cursor

/-- The gap behind a run of a plain scalar. -/
def plainGap (c : Cursor) : PlainGap :=
  let (spaces, c) := c.span (· = ' ')
  match c.takeBreak? with
  | none => ⟨spaces, false, c⟩
  | some (b, c) =>
      if c.isAtDocumentMarker then ⟨[], true, c⟩
      else
        let (more, marked, c) := plainBreaks (c.rest.length + 1) c
        ⟨if marked then [] else foldBreaks b more, true, c⟩

/-- The rest of a plain scalar, and whether a line ends behind it. -/
def plainFrom (flow : Bool) (indent : Int) : Nat → Bool → Cursor → List Char × Bool × Cursor
  | 0, overLines, c => ([], overLines, c)
  | fuel + 1, overLines, c =>
      let run := plainRun flow c.rest
      if c.peek = '#' || run.isEmpty then ([], overLines, c)
      else
        let gap := plainGap (c.skip run.length)
        if gap.text.isEmpty || gap.cursor.peek = '#' ||
            (!flow && (gap.cursor.column : Int) < indent) then
          (run, gap.overLines, gap.cursor)
        else
          match plainFrom flow indent fuel gap.overLines gap.cursor with
          | ([], overLines, c) => (run, overLines, c)
          | (more, overLines, c) => (run ++ gap.text ++ more, overLines, c)

/-- A plain scalar whose further lines have at least the given column. -/
def plainScalar (flow : Bool) (indent : Int) (c : Cursor) : List Char × Bool × Cursor :=
  plainFrom flow indent (c.rest.length + 1) false c

/-! ## Quoted scalars -/

/-- The characters that escapes of one character stand for. -/
def escapes : List (Char × Char) :=
  [('0', '\x00'), ('a', '\x07'), ('b', '\x08'), ('t', '\t'), ('\t', '\t'), ('n', '\n'),
    ('v', '\x0b'), ('f', '\x0c'), ('r', '\r'), ('e', '\x1b'), (' ', ' '), ('"', '"'),
    ('\\', '\\'), ('/', '/'), ('N', '\x85'), ('_', '\xa0'), ('L', '\u2028'), ('P', '\u2029')]

/-- The number of digits behind the escapes that give the number of a character. -/
def escapeWidths : List (Char × Nat) := [('x', 2), ('u', 4), ('U', 8)]

/-- The character of a number. -/
def characterOf (code : Nat) : Except Fault Char :=
  if 0x7fffffff < code then .error (.content .characterTooLarge)
  else if 0x10ffff < code then .error (.content .notCharacter)
  else .ok (Text.characterOf code)

/-- The number of a run of hexadecimal digits of the given length, and the place behind it. -/
def hexNumber (fault : TokenFault) (width : Nat) (c : Cursor) : Except Fault (Nat × Cursor) :=
  let values := (c.rest.take width).map Numeral.hexDigit?
  let digits := (values.takeWhile Option.isSome).filterMap id
  if digits.length = width then .ok (digits.foldl (fun n d => 16 * n + d) 0, c.skip width)
  else badToken fault (c.skip digits.length)

/-- The ends of empty lines inside quotes. -/
def quotedBreaks : Nat → Cursor → Except Fault (List Char × Cursor)
  | 0, c => .ok ([], c)
  | fuel + 1, c =>
      if c.isAtDocumentMarker then badToken .markerInQuote c
      else
        let c := c.skipWhile isBlank
        match c.takeBreak? with
        | none => .ok ([], c)
        | some (b, c) => do
            let (more, c) ← quotedBreaks fuel c
            return (b :: more, c)

/-- The blanks and ends of lines between two words inside quotes. -/
def quotedGap (c : Cursor) : Except Fault (List Char × Cursor) :=
  let (blanks, c) := c.span isBlank
  if c.rest.isEmpty then badToken .unclosedQuote c
  else match c.takeBreak? with
    | none => .ok (blanks, c)
    | some (b, c) => do
        let (more, c) ← quotedBreaks (c.rest.length + 1) c
        return (foldBreaks b more, c)

/-- What an escape behind a backslash stands for. -/
def escape (c : Cursor) : Except Fault (List Char × Cursor) :=
  match escapes.lookup c.peek with
  | some x => .ok ([x], c.next)
  | none =>
      match escapeWidths.lookup c.peek with
      | some width => do
          let (code, c) ← hexNumber .escape width c.next
          return ([← characterOf code], c)
      | none =>
          match c.takeBreak? with
          | some (_, c) => quotedBreaks (c.rest.length + 1) c
          | none => badToken .escape c

/-- Whether a character stands for itself inside quotes of both kinds. -/
def isQuotedPlain (c : Char) : Bool :=
  !(c = '\x27' || c = '"' || c = '\\' || isBlankOrEnd c)

/-- A word inside quotes: characters and escapes without blanks between them. -/
def quotedWord (double : Bool) : Nat → Cursor → Except Fault (List Char × Cursor)
  | 0, c => .ok ([], c)
  | fuel + 1, c =>
      let (run, c) := c.span isQuotedPlain
      let x := c.peek
      let go (piece : List Char) (c : Cursor) : Except Fault (List Char × Cursor) := do
        let (more, c) ← quotedWord double fuel c
        return (run ++ piece ++ more, c)
      if double then
        if x = '\x27' then go [x] c.next
        else if x = '\\' then do
          let (piece, c) ← escape c.next
          go piece c
        else .ok (run, c)
      else if x = '\x27' && c.peekAt 1 = '\x27' then go [x] (c.skip 2)
      else if x = '"' || x = '\\' then go [x] c.next
      else .ok (run, c)

/-- The rest of a quoted scalar behind a word of it. -/
def quotedFrom (double : Bool) : Nat → Cursor → Except Fault (List Char × Cursor)
  | 0, c => badToken .unclosedQuote c
  | fuel + 1, c =>
      if c.peek = (if double then '"' else '\x27') then .ok ([], c.next)
      else do
        let (gap, c) ← quotedGap c
        let (word, c) ← quotedWord double (c.rest.length + 1) c
        let (more, c) ← quotedFrom double fuel c
        return (gap ++ word ++ more, c)

/-- A quoted scalar; the cursor is at its first quote. -/
def quotedScalar (double : Bool) (c : Cursor) : Except Fault (List Char × Cursor) := do
  let c := c.next
  let (word, c) ← quotedWord double (c.rest.length + 1) c
  let (more, c) ← quotedFrom double (c.rest.length + 1) c
  return (word ++ more, c)

/-! ## Block scalars -/

/-- What happens to the ends of lines at the end of a block scalar. -/
inductive Chomping where
  | strip
  | clip
  | keep
deriving DecidableEq, Repr

/-- The header of a block scalar: what is kept at its end, and by how much it is indented. -/
structure BlockHeader where
  chomping : Chomping
  increment : Option Nat
deriving DecidableEq, Repr

/-- A mark of chomping at the cursor. -/
def chompingAt? (c : Cursor) : Option Chomping :=
  if c.peek = '+' then some .keep else if c.peek = '-' then some .strip else none

/-- An indentation at the cursor, which cannot be zero. -/
def incrementAt (c : Cursor) : Except Fault (Option Nat × Cursor) :=
  if c.peek = '0' then badToken .blockHeader c
  else if c.peek.isDigit then .ok (some (c.peek.toNat - 48), c.next)
  else .ok (none, c)

/-- The marks behind the indicator of a block scalar, in either order. -/
def blockHeader (c : Cursor) : Except Fault (BlockHeader × Cursor) := do
  let (header, c) ← (match chompingAt? c with
    | some chomping => do
        let (increment, c) ← incrementAt c.next
        return (⟨chomping, increment⟩, c)
    | none => do
        let (increment, c) ← incrementAt c
        match increment, chompingAt? c with
        | some n, some chomping => return (⟨chomping, some n⟩, c.next)
        | _, _ => return (⟨.clip, increment⟩, c) : Except Fault (BlockHeader × Cursor))
  if isSpaceOrEnd c.peek then return (header, c) else badToken .blockHeader c

/-- The rest of a line that may hold only a comment. -/
def restOfLine (fault : TokenFault) (c : Cursor) : Except Fault Cursor :=
  let c := (c.skipWhile (· = ' ')).skipComment
  if endsLine c.peek then .ok c.skipBreak else badToken fault c

/-- The ends of the empty lines in front of a block scalar whose indentation is not given, and the
greatest column of a space in them or in front of its first line. -/
def blockOpening : Nat → Nat → Cursor → List Char × Nat × Cursor
  | 0, most, c => ([], most, c)
  | fuel + 1, most, c =>
      let (spaces, c) := c.span (· = ' ')
      let most := if spaces.isEmpty then most else max most c.column
      match c.takeBreak? with
      | none => ([], most, c)
      | some (b, c) =>
          let (more, most, c) := blockOpening fuel most c
          (b :: more, most, c)

/-- The place behind the indentation of a line, or where that stops being made of spaces. -/
def skipIndent (indent : Nat) (c : Cursor) : Cursor :=
  c.skip (min (c.rest.takeWhile (· = ' ')).length (indent - c.column))

/-- The ends of empty lines between the lines of a block scalar. -/
def blockBreaks (indent : Nat) : Nat → Cursor → List Char × Cursor
  | 0, c => ([], c)
  | fuel + 1, c =>
      let c := skipIndent indent c
      match c.takeBreak? with
      | none => ([], c)
      | some (b, c) =>
          let (more, c) := blockBreaks indent fuel c
          (b :: more, c)

/-- The lines of a block scalar. -/
structure BlockLines where
  /-- The text up to the end of the last line. -/
  text : List Char
  /-- The end of the last line, which the end of the text may lack. -/
  lastBreak : List Char
  /-- The ends of the empty lines behind it. -/
  breaks : List Char
  cursor : Cursor

/-- The lines of a block scalar from a line on.  Two lines that start with no blank are folded. -/
def blockLines (folded : Bool) (indent : Nat) :
    Nat → (lastBreak breaks : List Char) → Cursor → BlockLines
  | 0, lastBreak, breaks, c => ⟨[], lastBreak, breaks, c⟩
  | fuel + 1, lastBreak, breaks, c =>
      if c.column != indent || c.rest.isEmpty then ⟨[], lastBreak, breaks, c⟩
      else
        let startsWithBlank := isBlank c.peek
        let (line, c) := c.span fun x => !endsLine x
        let ending := (c.takeBreak?.map fun e => [e.1]).getD []
        let (following, c) := blockBreaks indent (c.rest.length + 1) c.skipBreak
        let goesOn := c.column == indent && !c.rest.isEmpty
        let joint :=
          if !goesOn then []
          else if folded && ending == ['\n'] && !startsWithBlank && !isBlank c.peek then
            if following.isEmpty then [' '] else []
          else ending
        let rest := blockLines folded indent fuel ending following c
        { rest with text := breaks ++ line ++ joint ++ rest.text }

/-- A block scalar inside a block of the given indentation; the cursor is at its indicator. -/
def blockScalar (folded : Bool) (parent : Int) (c : Cursor) : Except Fault (List Char × Cursor) := do
  let (header, c) ← blockHeader c.next
  let c ← restOfLine .blockHeader c
  let least := max 1 (parent + 1).toNat
  let (breaks, indent, c) := match header.increment with
    | some n =>
        let indent := least + n - 1
        let (breaks, c) := blockBreaks indent (c.rest.length + 1) c
        (breaks, indent, c)
    | none =>
        let (breaks, most, c) := blockOpening (c.rest.length + 1) 0 c
        (breaks, max least most, c)
  let lines := blockLines folded indent (c.rest.length + 1) [] breaks c
  let text := match header.chomping with
    | .strip => lines.text
    | .clip => lines.text ++ lines.lastBreak
    | .keep => lines.text ++ lines.lastBreak ++ lines.breaks
  return (text, lines.cursor)

end FormRules.Yaml
