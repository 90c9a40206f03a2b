import FormRules.Pattern.Escape
import FormRules.Unicode.Identifier
/-!
# Repetitions, flags and groups

What may stand behind an item to repeat it, which letters switch what, and how a group begins.
-/
namespace FormRules.Pattern

/-! ## Repetitions -/

/-- A bound of a repetition. -/
def readCount (digits : List Char) : Reader Nat := do
  match Numeral.readInt (String.ofList digits) with
  | .error f => throw (.numeral f)
  | .ok n =>
      if countLimit ≤ n.toNat then throw .countTooLarge
      return n.toNat

/-- The bounds up to a closing brace, from the position `here`; if the braces hold something else,
everything is as it was. -/
def boundsFrom (here : Nat) (saved : Reading) : Reader (Option (Nat × Option Nat)) := do
  let low ← Reader.takeAll Char.isDigit
  let high ← if ← Reader.accept ',' then Reader.takeAll Char.isDigit else pure low
  if !(← Reader.accept '\x7d') then
    set saved
    return none
  let least ← if low.isEmpty then pure 0 else readCount low
  if high.isEmpty then return some (least, none)
  let most ← readCount high
  if most < least then Reader.fail .bounds ((← Reader.tell) - here)
  return some (least, some most)

/-- The bounds in braces, if braces hold bounds; otherwise nothing is taken. -/
def readBounds : Reader (Option (Nat × Option Nat)) := do
  let here ← Reader.tell
  let saved ← get
  if let some t ← Reader.peek then if t.is '\x7d' then return none
  boundsFrom here saved

/-- The bounds that a repetition sign stands for; an opening brace may stand for itself. -/
def boundsOf (sign : Char) : Reader (Option (Nat × Option Nat)) :=
  match sign with
  | '?' => return some (0, some 1)
  | '*' => return some (0, none)
  | '+' => return some (1, none)
  | _ => readBounds

/-- The style that a sign behind a repetition asks for. -/
def readStyle : Reader Style := do
  if ← Reader.accept '?' then return .lazy
  if ← Reader.accept '+' then return .possessive
  return .greedy

/-- Repeat the last term; `here` is the position behind the sign. -/
def repeatLast (here : Nat) (bounds : Nat × Option Nat) (terms : List Term) :
    Reader (List Term) := do
  let back := (← Reader.tell) - here + 1
  match terms with
  | [] => Reader.fail .nothingToRepeat back
  | .anchor _ :: _ => Reader.fail .nothingToRepeat back
  | .loop .. :: _ => Reader.fail .multipleRepeat back
  | t :: rest => return .loop (← readStyle) bounds.1 bounds.2 t.repeated :: rest

/-! ## Flags -/

def flagLetters : List Char := ['i', 'L', 'm', 's', 'x', 'a', 't', 'u']

/-- The letter of a flag. -/
def Token.flag? (t : Token) : Option Char :=
  match t.text with
  | [c] => if flagLetters.contains c then some c else none
  | _ => none

/-- A piece where a flag was expected. -/
def noFlag {α : Type} (t : Token) (otherwise : String) : Reader α :=
  let isWord := t.text.all Unicode.isLetter
  Reader.fail (if isWord then .unknownFlag else .missing otherwise) t.text.length

/-- Flags that are turned on, from a letter on, and the sign behind them. -/
def flagsOn : Nat → Char → Flags → Reader (Flags × Char)
  | 0, c, added => return (added, c)
  | fuel + 1, c, added => do
      if c = 'L' then Reader.fail .localeFlag 0
      let added := added.set c
      if added.ascii && added.full then Reader.fail .conflictingFlags 0
      match ← Reader.next with
      | none => Reader.fail (.missing "-, : or )") 0
      | some t =>
          if t.is ')' then return (added, ')')
          if t.is '-' then return (added, '-')
          if t.is ':' then return (added, ':')
          match t.flag? with
          | some c => flagsOn fuel c added
          | none => noFlag t "-, : or )"

/-- Flags that are turned off, from a letter on, up to a colon. -/
def flagsOff : Nat → Char → Flags → Reader Flags
  | 0, _, removed => return removed
  | fuel + 1, c, removed => do
      if c = 'a' || c = 'u' || c = 'L' then Reader.fail .cannotTurnOffCharacterFlags 0
      let removed := removed.set c
      match ← Reader.next with
      | none => Reader.fail (.missing ":") 0
      | some t =>
          if t.is ':' then return removed
          match t.flag? with
          | some c => flagsOff fuel c removed
          | none => noFlag t ":"

/-- Flags behind the opening of a group: those added and removed inside it, or none when they hold
for the whole pattern. -/
def readFlags (first : Char) : Reader (Option (Flags × Flags)) := do
  let fuel := (← get).ahead.length + 1
  let (added, sign) ←
    if first = '-' then pure (Flags.none, '-') else flagsOn fuel first Flags.none
  if sign = ')' then
    modify fun r => { r with flags := r.flags.union added }
    return none
  if added.template then Reader.fail .cannotTurnOn 1
  let removed ←
    if sign = '-' then do
      match ← Reader.next with
      | none => Reader.fail (.missing "flag") 0
      | some t => match t.flag? with
        | some c => flagsOff fuel c Flags.none
        | none => noFlag t "flag"
    else pure Flags.none
  if removed.template then Reader.fail .cannotTurnOff 1
  if added.meets removed then Reader.fail .turnedOnAndOff 1
  return some (added, removed)

/-! ## Groups -/

/-- What the opening of a group asks for. -/
inductive Opening where
  | capture (name : Option (List Char))
  | plain (added removed : Flags)
  | atomic
  | ahead (negated : Bool)
  | behind (negated : Bool)
  | choose
  /-- A comment, flags for the whole pattern, or a group's text again: nothing is to be closed. -/
  | done (terms : List Term)

/-- A name in a group's opening. -/
def checkName (name : List Char) : Reader Unit := do
  if !Unicode.isIdentifier name then
    Reader.fail (.badGroupName (String.ofList name)) (name.length + 1)

/-- The index of a named group. -/
def namedGroup (name : List Char) : Reader Nat := do
  match (← get).names.lookup (String.ofList name) with
  | some index => return index
  | none => Reader.fail (.unknownGroup (String.ofList name)) (name.length + 1)

/-- A comment up to its parenthesis. -/
def skipComment (start : Nat) : Nat → Reader Unit
  | 0 => return
  | fuel + 1 => do
      if (← Reader.peek).isNone then
        Reader.fail .unterminatedComment ((← Reader.tell) - start)
      match ← Reader.next with
      | some t => if t.is ')' then return else skipComment start fuel
      | none => return

/-- The opening of a group, of which the parenthesis at `start` has been taken.  `atStart` says
whether flags for the whole pattern may stand here. -/
def readOpening (flags : Flags) (start : Nat) (atStart : Bool) : Reader Opening := do
  if !(← Reader.accept '?') then return .capture none
  let some t ← Reader.next | Reader.fail .unexpectedEnd 0
  let unknown : Reader Opening :=
    Reader.fail (.unknownExtension (String.ofList t.text)) (t.text.length + 1)
  match t.text with
  | ['P'] =>
      if ← Reader.accept '<' then
        let name ← Reader.takeUntil '>' "group name"
        checkName name
        return .capture (some name)
      if ← Reader.accept '=' then
        let name ← Reader.takeUntil ')' "group name"
        checkName name
        let index ← namedGroup name
        return .done [← backReference flags index (name.length + 1)]
      match ← Reader.next with
      | none => Reader.fail .unexpectedEnd 0
      | some u =>
          Reader.fail (.unknownExtension ("P" ++ String.ofList u.text)) (u.text.length + 2)
  | [':'] => return .plain .none .none
  | ['#'] =>
      skipComment start ((← get).ahead.length + 1)
      return .done []
  | ['='] => return .ahead false
  | ['!'] => return .ahead true
  | ['<'] =>
      match ← Reader.next with
      | none => Reader.fail .unexpectedEnd 0
      | some u =>
          if u.is '=' then return .behind false
          if u.is '!' then return .behind true
          Reader.fail (.unknownExtension ("<" ++ String.ofList u.text)) (u.text.length + 2)
  | ['('] => return .choose
  | ['>'] => return .atomic
  | [c] =>
      if c = '-' || flagLetters.contains c then
        match ← readFlags c with
        | some (added, removed) => return .plain added removed
        | none =>
            if !atStart then Reader.fail .flagsNotAtStart ((← Reader.tell) - start)
            return .done []
      else unknown
  | _ => unknown

/-- The group that a choice depends on, by name or by number. -/
def readCondition : Reader Nat := do
  let name ← Reader.takeUntil ')' "group name"
  let back := name.length + 1
  let index ←
    if Unicode.isIdentifier name then namedGroup name
    else
      match Numeral.readInt (String.ofList name) with
      | .error _ => Reader.fail (.badGroupName (String.ofList name)) back
      | .ok n =>
          if n < 0 then Reader.fail (.badGroupName (String.ofList name)) back
          if n = 0 then Reader.fail .badGroupNumber back
          if groupLimit ≤ n.toNat then Reader.fail (.invalidGroup n.toNat) back
          let position := (← Reader.tell) - back
          modify fun r =>
            if (r.choices.lookup n.toNat).isSome then r
            else { r with choices := r.choices ++ [(n.toNat, position)] }
          pure n.toNat
  Reader.checkBehind index
  return index

/-- Open a group under a new index. -/
def openGroup (name : Option (List Char)) : Reader Nat := do
  let index ← Reader.groupCount
  modify fun r => { r with widths := r.widths ++ [none] }
  if let some name := name then
    let text := String.ofList name
    match (← get).names.lookup text with
    | some first => Reader.fail (.groupRedefined text index first) (name.length + 1)
    | none => modify fun r => { r with names := r.names ++ [(text, index)] }
  return index

/-- Close a group that is to have the width of its terms. -/
def closeGroup (index : Nat) (body : List Term) : Reader Unit :=
  modify fun r => { r with widths := r.widths.set (index - 1) (some (Term.widthOf body)) }

/-- The closing parenthesis of the group that begins at `start`. -/
def expectClosing (start : Nat) : Reader Unit := do
  if !(← Reader.accept ')') then
    Reader.fail .unterminatedGroup ((← Reader.tell) - start)

end FormRules.Pattern
