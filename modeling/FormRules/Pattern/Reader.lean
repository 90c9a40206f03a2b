import FormRules.Pattern.Flags
import FormRules.Pattern.Term
import FormRules.Pattern.Token
/-!
# Steps of reading a pattern

A step takes pieces from the front of a pattern and may learn something about its groups: how wide
they are, what they are called, and which ones are still open.
-/
namespace FormRules.Pattern

/-- What has been learned while reading: the pieces ahead, the length of the pattern, the widths of
the groups (absent while a group is open), their names, the flags of the whole pattern, the number
of groups when the outermost look behind began, and the groups that choices refer to. -/
structure Reading where
  ahead : List Token
  size : Nat
  widths : List (Option Width)
  names : List (String × Nat)
  flags : Flags
  behindGroups : Option Nat
  choices : List (Nat × Nat)

/-- A step of reading. -/
abbrev Reader := StateT Reading (Except Rejection)

namespace Reader

/-- Where the next piece begins. -/
def tell : Reader Nat := do
  let r ← get
  return match r.ahead with
    | [] => r.size
    | t :: _ => t.position

/-- Fail with a cause, `back` characters before the next piece. -/
def fail {α : Type} (cause : Cause) (back : Nat) : Reader α := do
  let p ← tell
  throw (.fault ⟨cause, some (p - back)⟩)

/-- The next piece, left in place. -/
def peek : Reader (Option Token) := return (← get).ahead.head?

/-- Refuse a dangling backslash that has come next. -/
def checkAhead : Reader Unit := do
  match (← get).ahead with
  | t :: _ => if t.isDangling then throw (.fault ⟨.endsInBackslash, some t.position⟩)
  | [] => return

/-- Take the next piece. -/
def next : Reader (Option Token) := do
  let r ← get
  match r.ahead with
  | [] => return none
  | t :: rest =>
      set { r with ahead := rest }
      checkAhead
      return some t

/-- Take the next piece if it is one given character. -/
def accept (c : Char) : Reader Bool := do
  match ← peek with
  | some t => if t.is c then do let _ ← next; return true else return false
  | none => return false

/-- Take at most `n` characters of a class. -/
def takeWhile (p : Char → Bool) : Nat → Reader (List Char)
  | 0 => return []
  | n + 1 => do
      match ← peek with
      | some ⟨[c], _⟩ =>
          if p c then do
            let _ ← next
            return c :: (← takeWhile p n)
          else return []
      | _ => return []

/-- Take all characters of a class. -/
def takeAll (p : Char → Bool) : Reader (List Char) := do takeWhile p (← get).ahead.length

/-- Take everything up to a terminator, which is taken too. -/
def takeUntilLoop (terminator : Char) (what : String) : Nat → List Char → Reader (List Char)
  | 0, found => return found
  | n + 1, found => do
      match ← next with
      | none =>
          if found.isEmpty then fail (.missing what) 0
          else fail (.unterminatedName (String.ofList [terminator])) found.length
      | some t =>
          if t.is terminator then
            if found.isEmpty then fail (.missing what) 1 else return found
          else takeUntilLoop terminator what n (found ++ t.text)

/-- A name up to a terminator. -/
def takeUntil (terminator : Char) (what : String) : Reader (List Char) := do
  takeUntilLoop terminator what ((← get).ahead.length + 1) []

/-- The number of groups so far, the whole pattern being group 0. -/
def groupCount : Reader Nat := return (← get).widths.length + 1

/-- The width of a group that is closed. -/
def closedWidth? (index : Nat) : Reader (Option Width) := do
  if index = 0 then return none
  return ((← get).widths[index - 1]?).join

/-- Inside a look behind only groups from before it can be referred to. -/
def checkBehind (index : Nat) : Reader Unit := do
  match (← get).behindGroups with
  | none => return
  | some limit =>
      if (← closedWidth? index).isNone then fail .openGroup 0
      if limit ≤ index then fail .groupOfSameLookBehind 0

end Reader

/-- The largest index that a group may have, plus one. -/
def groupLimit : Nat := 1073741823

end FormRules.Pattern
