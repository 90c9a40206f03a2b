import FormRules.Pattern.Group
/-!
# Reading patterns

Alternatives are sequences between bars, a sequence is a list of terms, and a repetition sign
changes the term before it.  Flags that hold for the whole pattern stand at its start; a group may
change them for its own text.  Widths behind a position are checked when everything has been read.
-/
namespace FormRules.Pattern

/-! ## Sequences and alternatives -/

/-- White space in a pattern that may hold comments. -/
def isLayout (c : Char) : Bool := (9 ≤ c.toNat && c.toNat ≤ 13) || c == ' '

/-- Skip a comment that ends with its line. -/
def skipLine : Nat → Reader Unit
  | 0 => return
  | fuel + 1 => do
      match ← Reader.next with
      | some t => if t.is '\n' then return else skipLine fuel
      | none => return

/-- Run a reader with the group count noted for references behind a position. -/
def withinBehind (read : Reader (List Term)) : Reader (List Term) := do
  let outer := (← get).behindGroups
  let count ← Reader.groupCount
  modify fun r => { r with behindGroups := some (outer.getD count) }
  let body ← read
  modify fun r => { r with behindGroups := outer }
  return body

mutual

/-- Alternatives, of which the first ones are given, last first.  `outermost` says whether they are
the whole pattern, whose flags may still change while the first alternative is read. -/
def readAlternatives (fuel : Nat) (flags : Flags) (outermost : Bool)
    (alternatives : List (List Term)) : Reader (List Term) := do
  match fuel with
  | 0 => return Term.either alternatives.reverse
  | fuel + 1 =>
      let whole := (← get).flags
      let flags := if outermost then whole else flags
      let ts ← readSequence fuel flags (outermost && alternatives.isEmpty) []
      if ← Reader.accept '|' then readAlternatives fuel flags outermost (ts :: alternatives)
      else return Term.either (ts :: alternatives).reverse
termination_by structural fuel

/-- A sequence; `terms` are its terms so far, last first. -/
def readSequence (fuel : Nat) (flags : Flags) (first : Bool) (terms : List Term) :
    Reader (List Term) := do
  match fuel with
  | 0 => return Term.unwrapped terms.reverse
  | fuel + 1 =>
      let some t ← Reader.peek | return Term.unwrapped terms.reverse
      if t.is '|' || t.is ')' then return Term.unwrapped terms.reverse
      let _ ← Reader.next
      match t.escaped?, t.text with
      | some c, _ => readSequence fuel flags first ((← escapeTerm flags c) :: terms)
      | none, [c] =>
          if flags.verbose && isLayout c then readSequence fuel flags first terms
          else if flags.verbose && c = '#' then
            skipLine ((← get).ahead.length + 1)
            readSequence fuel flags first terms
          else match c with
            | '[' => readSequence fuel flags first ((← readSet flags) :: terms)
            | '.' => readSequence fuel flags first (.char (.any flags.dotAll) :: terms)
            | '^' =>
                let place := if flags.multiline then .lineStart else .textStart
                readSequence fuel flags first (.anchor place :: terms)
            | '$' =>
                let place := if flags.multiline then .lineEnd else .lastLineEnd
                readSequence fuel flags first (.anchor place :: terms)
            | '(' =>
                let start := (← Reader.tell) - 1
                let added ← readGroup fuel flags start (first && terms.isEmpty)
                let whole := (← get).flags
                let flags := if first then whole else flags
                readSequence fuel flags first (added ++ terms)
            | '*' | '+' | '?' | '\x7b' =>
                let here ← Reader.tell
                match ← boundsOf c with
                | some bounds => readSequence fuel flags first (← repeatLast here bounds terms)
                | none => readSequence fuel flags first (literal flags c :: terms)
            | _ => readSequence fuel flags first (literal flags c :: terms)
      | none, _ => readSequence fuel flags first terms
termination_by structural fuel

/-- A group, of which the parenthesis at `start` has been taken. -/
def readGroup (fuel : Nat) (flags : Flags) (start : Nat) (atStart : Bool) :
    Reader (List Term) := do
  match fuel with
  | 0 => return []
  | fuel + 1 =>
      match ← readOpening flags start atStart with
      | .done terms => return terms
      | .capture name =>
          let index ← openGroup name
          let body ← readAlternatives fuel flags false []
          expectClosing start
          closeGroup index body
          return [.group (some index) false body]
      | .plain added removed =>
          let body ← readAlternatives fuel (flags.inside added removed) false []
          expectClosing start
          return [.group none (added != .none || removed != .none) body]
      | .atomic =>
          let body ← readAlternatives fuel flags false []
          expectClosing start
          return [.atomic body]
      | .ahead negated =>
          let body ← readAlternatives fuel flags false []
          expectClosing start
          return [.ahead negated body]
      | .behind negated =>
          let body ← withinBehind (readAlternatives fuel flags false [])
          expectClosing start
          return [.behind negated body]
      | .choose =>
          let index ← readCondition
          let present ← readSequence fuel flags false []
          let absent ←
            if ← Reader.accept '|' then do
              let absent ← readSequence fuel flags false []
              if let some t ← Reader.peek then
                if t.is '|' then Reader.fail .threeBranches 0
              pure (some absent)
            else pure none
          expectClosing start
          return [.choose index present absent]
termination_by structural fuel

end

/-! ## Checks of the whole -/

/-- The name of a repetition's style in a fault. -/
def Style.operator : Style → String
  | .greedy => "MAX_REPEAT"
  | .lazy => "MIN_REPEAT"
  | .possessive => "POSSESSIVE_REPEAT"

mutual

/-- The first fault of a term that can only be told from the whole pattern: a repetition where none
is allowed, or a look behind whose text has no single width. -/
def lateFault? (template : Bool) : Term → Option Cause
  | .loop style _ _ body =>
      if template then some (.repeatInTemplate style.operator) else lateFaultOf? template body
  | .group _ _ body | .ahead _ body | .atomic body => lateFaultOf? template body
  | .behind _ body =>
      if (Term.widthOf body).fixed?.isNone then some .variableLookBehind
      else lateFaultOf? template body
  | .branch alternatives => lateFaultOfAny? template alternatives
  | .choose _ present absent =>
      (lateFaultOf? template present).orElse fun _ => match absent with
        | some body => lateFaultOf? template body
        | none => none
  | .char _ | .anchor _ | .again .. => none

/-- The first such fault of terms. -/
def lateFaultOf? (template : Bool) : List Term → Option Cause
  | [] => none
  | t :: rest => (lateFault? template t).orElse fun _ => lateFaultOf? template rest

/-- The first such fault of alternatives. -/
def lateFaultOfAny? (template : Bool) : List (List Term) → Option Cause
  | [] => none
  | ts :: rest => (lateFaultOf? template ts).orElse fun _ => lateFaultOfAny? template rest

end

/-- Read a whole pattern. -/
def readWhole (fuel : Nat) : Reader (List Term) := do
  Reader.checkAhead
  let flags := (← get).flags
  let terms ← readAlternatives fuel flags true []
  let r ← get
  if r.flags.ascii && r.flags.full then throw .incompatibleFlags
  if (← Reader.peek).isSome then Reader.fail .unbalanced 0
  if let some (index, position) := r.choices.find? fun e => r.widths.length < e.1 then
    throw (.fault ⟨.invalidGroup index, some position⟩)
  if let some cause := lateFaultOf? r.flags.template terms then throw (.fault ⟨cause, none⟩)
  return terms

/-- The terms that a text denotes under the given flags. -/
def parse (text : String) (flags : Flags) : Except Rejection (List Term) :=
  let chars := text.toList
  let reading : Reading := ⟨tokensFrom 0 chars, chars.length, [], [], flags, none, []⟩
  ((readWhole (4 * chars.length + 8)).run reading).map (·.1)

end FormRules.Pattern
