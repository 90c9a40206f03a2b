import FormRules.Yaml.Scalar
import FormRules.Yaml.Token
/-!
# Tokens of a text

Tokens are read on demand.  Whether a scalar, an alias or a flow collection is a key shows only at
the colon behind it; until then its place is a candidate, and the token for a key is put in front
of it when the colon comes.  A candidate must be followed by its colon on the same line, within
1024 characters.  In block context the columns of the open collections are kept: a token further to
the left closes them.
-/
namespace FormRules.Yaml

/-- A place where a key may have started. -/
structure KeyCandidate where
  /-- The number of tokens in front of it. -/
  number : Nat
  /-- Whether nothing else can stand there. -/
  required : Bool
  index : Nat
  line : Nat
  column : Nat
deriving Repr

/-- Whether the colon of a key would come too late. -/
def KeyCandidate.isStale (k : KeyCandidate) (c : Cursor) : Bool :=
  k.line != c.line || 1024 < c.index - k.index

/-- A text that is being read, and the tokens that are known but not taken. -/
structure Lexer where
  cursor : Cursor
  finished : Bool
  /-- The number of open flow collections. -/
  flow : Nat
  pending : List Token
  taken : Nat
  /-- The column of the innermost block collection; outside of all it is -1. -/
  indent : Int
  outerIndents : List Int
  /-- Whether a key may start here. -/
  keyAllowed : Bool
  /-- Candidates by the number of open flow collections. -/
  candidates : List (Nat × KeyCandidate)
deriving Repr

namespace Lexer

/-- The start of a text. -/
def ofText (s : List Char) (barrier : Option Char) : Lexer :=
  ⟨.ofText s barrier, false, 0, [], 0, -1, [], true, []⟩

/-- A lexer whose cursor has not come to a character that cannot be read. -/
def legible (l : Lexer) : Except Fault Lexer :=
  match l.cursor.unreadable? with
  | some x => .error (.character x)
  | none => .ok l

/-- Whether no flow collection is open. -/
def inBlock (l : Lexer) : Bool := l.flow = 0

def push (l : Lexer) (t : Token) : Lexer := { l with pending := l.pending ++ [t] }

/-- Put a token in front of the one of a number. -/
def insert (l : Lexer) (number : Nat) (t : Token) : Lexer :=
  { l with pending := l.pending.insertIdx (number - l.taken) t }

/-- A token of some characters at the cursor. -/
def pushChars (l : Lexer) (count : Nat) (t : Token) : Lexer :=
  { l.push t with cursor := l.cursor.skip count }

/-! ## Candidates for keys -/

/-- Forget the candidates whose colon would come too late. -/
def dropStale (l : Lexer) : Except Fault Lexer :=
  if l.candidates.any fun e => e.2.isStale l.cursor && e.2.required then
    badToken .keyWithoutValue l.cursor
  else .ok { l with candidates := l.candidates.filter fun e => !e.2.isStale l.cursor }

/-- Forget the candidate of this flow collection. -/
def dropCandidate (l : Lexer) : Except Fault Lexer :=
  match l.candidates.lookup l.flow with
  | none => .ok l
  | some k =>
      if k.required then badToken .keyWithoutValue l.cursor
      else .ok { l with candidates := l.candidates.filter fun e => e.1 != l.flow }

/-- Remember the cursor as a candidate if a key may start here. -/
def saveCandidate (l : Lexer) : Except Fault Lexer :=
  if !l.keyAllowed then .ok l
  else do
    let l ← l.dropCandidate
    let c := l.cursor
    let required := l.inBlock && l.indent == (c.column : Int)
    let k : KeyCandidate := ⟨l.taken + l.pending.length, required, c.index, c.line, c.column⟩
    return { l with candidates := (l.flow, k) :: l.candidates }

/-- The least number of a candidate. -/
def nextCandidate? (l : Lexer) : Option Nat := (l.candidates.map fun e => e.2.number).min?

/-! ## Indentation -/

/-- Leave the block collections to the right of a column: the new indentation, those around it,
and the tokens of the ends. -/
def leave (column : Int) : Int → List Int → Int × List Int × List Token
  | indent, [] => (indent, [], [])
  | indent, outer :: rest =>
      if indent ≤ column then (indent, outer :: rest, [])
      else
        let (indent, outers, ends) := leave column outer rest
        (indent, outers, .blockEnd :: ends)

/-- Close the block collections to the right of a column. -/
def unwind (l : Lexer) (column : Int) : Lexer :=
  if !l.inBlock then l
  else
    let (indent, outers, ends) := leave column l.indent l.outerIndents
    { l with indent := indent, outerIndents := outers, pending := l.pending ++ ends }

/-- Open a block collection at a column if it lies to the right of the innermost one. -/
def indentTo (l : Lexer) (column : Nat) : Option Lexer :=
  if l.indent < column then
    some { l with indent := column, outerIndents := l.indent :: l.outerIndents }
  else none

/-- Open a block collection at the cursor if it lies to the right of the innermost one. -/
def openBlock (l : Lexer) (t : Token) : Lexer :=
  match l.indentTo l.cursor.column with
  | some l => l.push t
  | none => l

/-! ## Tokens of one or three characters -/

def endStream (l : Lexer) : Except Fault Lexer := do
  let l ← (l.unwind (-1)).dropCandidate
  return { l.push .streamEnd with keyAllowed := false, candidates := [], finished := true }

def documentMarker (l : Lexer) (t : Token) : Except Fault Lexer := do
  let l ← (l.unwind (-1)).dropCandidate
  return { l with keyAllowed := false }.pushChars 3 t

def flowStart (l : Lexer) (t : Token) : Except Fault Lexer := do
  let l ← l.saveCandidate
  return { l with flow := l.flow + 1, keyAllowed := true }.pushChars 1 t

def flowEnd (l : Lexer) (t : Token) : Except Fault Lexer := do
  let l ← l.dropCandidate
  return { l with flow := l.flow - 1, keyAllowed := false }.pushChars 1 t

def flowEntry (l : Lexer) : Except Fault Lexer := do
  let l ← { l with keyAllowed := true }.dropCandidate
  return l.pushChars 1 .flowEntry

def blockEntry (l : Lexer) : Except Fault Lexer := do
  if l.inBlock && !l.keyAllowed then badToken .entryNotAllowed l.cursor
  let l := if l.inBlock then l.openBlock .blockSequenceStart else l
  let l ← { l with keyAllowed := true }.dropCandidate
  return l.pushChars 1 .blockEntry

def explicitKey (l : Lexer) : Except Fault Lexer := do
  if l.inBlock && !l.keyAllowed then badToken .keyNotAllowed l.cursor
  let l := if l.inBlock then l.openBlock .blockMappingStart else l
  let l ← { l with keyAllowed := l.inBlock }.dropCandidate
  return l.pushChars 1 .key

/-- A colon.  It makes a key of the candidate, if there is one. -/
def valueMark (l : Lexer) : Except Fault Lexer :=
  match l.candidates.lookup l.flow with
  | some k =>
      let l := { l with candidates := l.candidates.filter fun e => e.1 != l.flow }
      let l := l.insert k.number .key
      let l := match if l.inBlock then l.indentTo k.column else none with
        | some l => l.insert k.number .blockMappingStart
        | none => l
      .ok ({ l with keyAllowed := false }.pushChars 1 .value)
  | none => do
      if l.inBlock && !l.keyAllowed then badToken .valueNotAllowed l.cursor
      let l := if l.inBlock then l.openBlock .blockMappingStart else l
      let l ← { l with keyAllowed := l.inBlock }.dropCandidate
      return l.pushChars 1 .value

/-! ## Directives, references and tags -/

/-- Whether a character may be part of a name. -/
def isNameChar (c : Char) : Bool := c.isAlphanum || c = '-' || c = '_'

/-- A number of ASCII digits. -/
def directiveNumber (c : Cursor) : Except Fault (Nat × Cursor) :=
  let (digits, next) := c.span Char.isDigit
  if digits.isEmpty then badToken .directive c
  else .ok (Numeral.ofDigits (digits.map (·.toNat - 48)), next)

/-- Whether a character may be part of the name of a tag, apart from escapes. -/
def isTagChar (c : Char) : Bool :=
  isNameChar c || (";/?:@&=+$,.!~*\x27()[]".toList.contains c)

/-- The bytes of a run of escapes. -/
def tagEscapes : Nat → Cursor → Except Fault (List UInt8 × Cursor)
  | 0, c => .ok ([], c)
  | fuel + 1, c =>
      if c.peek != '%' then .ok ([], c)
      else do
          let (n, c) ← hexNumber .tag 2 c.next
          let (more, c) ← tagEscapes fuel c
          return (n.toUInt8 :: more, c)

/-- A tag or a part of it; escapes must form characters. -/
def tagText : Nat → Cursor → Except Fault (List Char × Cursor)
  | 0, c => .ok ([], c)
  | fuel + 1, c => do
      let (run, c) := c.span isTagChar
      if c.peek != '%' then return (run, c)
      let (bytes, c) ← tagEscapes (c.rest.length + 1) c
      let some text := String.fromUTF8? ⟨bytes.toArray⟩ | badToken .tag c
      let (more, c) ← tagText fuel c
      return (run ++ text.toList ++ more, c)

/-- A tag or a part of it that is not empty. -/
def tagName (c : Cursor) : Except Fault (String × Cursor) := do
  let start := c.index
  let (text, c) ← tagText (c.rest.length + 1) c
  if c.index = start then badToken .tag c
  return (String.ofList text, c)

/-- A handle of tags: an exclamation mark, or a name between two. -/
def tagHandle (c : Cursor) : Except Fault (String × Cursor) :=
  if c.peek != '!' then badToken .tag c
  else if c.peekAt 1 = ' ' then .ok ("!", c.next)
  else
    let (name, next) := c.next.span isNameChar
    if next.peek = '!' then .ok (String.ofList ('!' :: name ++ ['!']), next.next)
    else badToken .tag next

/-- What follows the name of a directive. -/
def directiveValue (name : String) (c : Cursor) : Except Fault (Directive × Cursor) :=
  if name = "YAML" then do
    let (major, c) ← directiveNumber (c.skipWhile (· = ' '))
    if c.peek != '.' then badToken .directive c
    let (minor, c) ← directiveNumber c.next
    if !isSpaceOrEnd c.peek then badToken .directive c
    return (.version major minor, c)
  else if name = "TAG" then do
    let (handle, c) ← tagHandle (c.skipWhile (· = ' '))
    if c.peek != ' ' then badToken .directive c
    let (tagPrefix, c) ← tagName (c.skipWhile (· = ' '))
    if !isSpaceOrEnd c.peek then badToken .directive c
    return (.tagHandle handle tagPrefix, c)
  else .ok (.other name, c.lineEnd)

def directive (l : Lexer) : Except Fault Lexer := do
  let l ← (l.unwind (-1)).dropCandidate
  let (name, c) := l.cursor.next.span isNameChar
  if name.isEmpty || !isSpaceOrEnd c.peek then badToken .directive c
  let (d, c) ← directiveValue (String.ofList name) c
  let c ← restOfLine .directive c
  return { l.push (.directive d) with keyAllowed := false, cursor := c }

/-- Whether a character may stand behind the name of an anchor. -/
def endsReference (c : Char) : Bool :=
  isBlankOrEnd c || "?:,]\x7d%@\x60".toList.contains c

/-- An alias or an anchor. -/
def reference (l : Lexer) (token : String → Token) : Except Fault Lexer := do
  let l ← l.saveCandidate
  let (name, c) := l.cursor.next.span isNameChar
  if name.isEmpty || !endsReference c.peek then badToken .referenceName c
  return { l.push (token (String.ofList name)) with keyAllowed := false, cursor := c }

/-- A tag as it is written. -/
def writtenTag (c : Cursor) : Except Fault (WrittenTag × Cursor) :=
  if c.peekAt 1 = '<' then do
    let (name, c) ← tagName (c.skip 2)
    if c.peek != '>' then badToken .tag c
    return (⟨none, name⟩, c.next)
  else if isBlankOrEnd (c.peekAt 1) then .ok (⟨none, "!"⟩, c.next)
  else if (c.next.rest.takeWhile fun x => !isSpaceOrEnd x).contains '!' then do
    let (handle, c) ← tagHandle c
    let (name, c) ← tagName c
    return (⟨some handle, name⟩, c)
  else do
    let (name, c) ← tagName c.next
    return (⟨some "!", name⟩, c)

def tag (l : Lexer) : Except Fault Lexer := do
  let l ← l.saveCandidate
  let (t, c) ← writtenTag l.cursor
  if !isSpaceOrEnd c.peek then badToken .tag c
  return { l.push (.tag t) with keyAllowed := false, cursor := c }

/-! ## Scalars -/

def block (l : Lexer) (folded : Bool) : Except Fault Lexer := do
  let l ← { l with keyAllowed := true }.dropCandidate
  let (text, c) ← blockScalar folded l.indent l.cursor
  return { l.push (.scalar (String.ofList text) false) with cursor := c }

def quoted (l : Lexer) (double : Bool) : Except Fault Lexer := do
  let l ← l.saveCandidate
  let (text, c) ← quotedScalar double l.cursor
  return { l.push (.scalar (String.ofList text) false) with keyAllowed := false, cursor := c }

def plain (l : Lexer) : Except Fault Lexer := do
  let l ← l.saveCandidate
  let (text, overLines, c) := plainScalar (!l.inBlock) (l.indent + 1) l.cursor
  return { l.push (.scalar (String.ofList text) true) with keyAllowed := overLines, cursor := c }

/-- Whether a plain scalar can start with a character. -/
def startsPlain (inBlock : Bool) (c following : Char) : Bool :=
  !(isBlankOrEnd c || "-?:,[]\x7b\x7d#&*!|>\x27\"%@\x60".toList.contains c) ||
    (!isBlankOrEnd following && (c = '-' || (inBlock && (c = '?' || c = ':'))))

/-! ## Reading on -/

/-- The place of the next token, and whether a line ends in front of it. -/
def skipBlanks : Nat → Bool → Cursor → Bool × Cursor
  | 0, overLines, c => (overLines, c)
  | fuel + 1, overLines, c =>
      let c := (c.skipWhile (· = ' ')).skipComment
      match c.takeBreak? with
      | some (_, c) => skipBlanks fuel true c
      | none => (overLines, c)

/-- Go to the next token.  In block context a key may start on a new line. -/
def toToken (l : Lexer) : Lexer :=
  let c := if l.cursor.index = 0 && l.cursor.peek = '\ufeff' then l.cursor.next else l.cursor
  let (overLines, c) := skipBlanks (c.rest.length + 1) false c
  { l with cursor := c, keyAllowed := l.keyAllowed || (l.inBlock && overLines) }

/-- Read the token at the cursor, together with those that its place implies. -/
def tokenHere (l : Lexer) : Except Fault Lexer := do
  let l := (← l.dropStale).unwind l.cursor.column
  let c := l.cursor
  let x := c.peek
  let following := c.peekAt 1
  let atStart := c.column = 0
  if c.rest.isEmpty then l.endStream
  else if x = '%' && atStart then l.directive
  else if atStart && c.isAtMarker '-' then l.documentMarker .documentStart
  else if atStart && c.isAtMarker '.' then l.documentMarker .documentEnd
  else if x = '[' then l.flowStart .flowSequenceStart
  else if x = '\x7b' then l.flowStart .flowMappingStart
  else if x = ']' then l.flowEnd .flowSequenceEnd
  else if x = '\x7d' then l.flowEnd .flowMappingEnd
  else if x = ',' then l.flowEntry
  else if x = '-' && isBlankOrEnd following then l.blockEntry
  else if x = '?' && (!l.inBlock || isBlankOrEnd following) then l.explicitKey
  else if x = ':' && (!l.inBlock || isBlankOrEnd following) then l.valueMark
  else if x = '*' then l.reference .alias
  else if x = '&' then l.reference .anchor
  else if x = '!' then l.tag
  else if x = '|' && l.inBlock then l.block false
  else if x = '>' && l.inBlock then l.block true
  else if x = '\x27' then l.quoted false
  else if x = '"' then l.quoted true
  else if startsPlain l.inBlock x following then l.plain
  else badToken (.noToken x) c

/-- Read the next token. -/
def more (l : Lexer) : Except Fault Lexer := do (← (← l.toToken.legible).tokenHere).legible

/-- Read on until the next token is known and cannot turn out to be a key. -/
def readyWith : Nat → Lexer → Except Fault Lexer
  | 0, l => .ok l
  | fuel + 1, l =>
      if l.finished then .ok l
      else if l.pending.isEmpty then do readyWith fuel (← l.more)
      else do
        let l ← l.dropStale
        if l.nextCandidate? = some l.taken then do readyWith fuel (← l.more)
        else return l

/-- Read on until the next token is known and cannot turn out to be a key. -/
def ready (l : Lexer) : Except Fault Lexer := readyWith (l.cursor.rest.length + 2) l

/-- The next token; behind the last one there is nothing but the end. -/
def head (l : Lexer) : Token := l.pending.headD .streamEnd

/-- Take the next token. -/
def tail (l : Lexer) : Lexer := { l with pending := l.pending.tail, taken := l.taken + 1 }

end Lexer

end FormRules.Yaml
