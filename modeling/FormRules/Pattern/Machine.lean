import FormRules.Pattern.Instruction
/-!
# The matching machine

The machine carries out instructions at a position of a text.  When the rest fails it takes back
its last choice and tries the next one: alternatives from left to right, repetitions in the order
of their style.

    state         the position noted last, and the marks set so far
    repetitions   those under way, the innermost first, each with what stands behind it
    answer        whether the rest was found, and the state in which the machine is left

The state is part of the answer also when the rest was not found, because what has been noted on
the way may matter later: a repetition that never gives back goes on where the failed round noted
its position, and marks set in a failed round stay where nothing takes them back.
-/
namespace FormRules.Pattern.Machine

/-! ## States -/

/-- What the machine notes: a position, and the positions of marks, of which those beyond the
highest one set are absent. -/
structure State where
  position : Nat
  marks : Array (Option Nat)
deriving DecidableEq, Repr

namespace State

/-- The state with another position. -/
def moved (s : State) (position : Nat) : State := { s with position }

/-- The state with a mark set. -/
def mark (s : State) (number position : Nat) : State :=
  if number < s.marks.size then
    { s with marks := s.marks.setIfInBounds number (some position) }
  else
    { s with marks := (s.marks ++ Array.replicate (number - s.marks.size) none).push position }

/-- Where the text of a group begins and ends, if both of its marks are set in this order. -/
def taken? (s : State) (index : Nat) : Option (Nat × Nat) := do
  let first ← (← s.marks[2 * index - 2]?)
  let last ← (← s.marks[2 * index - 1]?)
  if last < first then none else some (first, last)

/-- Take back the marks set since an earlier state: all of them inside a repetition, otherwise only
those beyond the highest one of that time. -/
def takeBack (s earlier : State) (inside : Bool) : State :=
  { s with marks := if inside then earlier.marks else s.marks.shrink earlier.marks.size }

end State

/-- Whether the rest was found, and the state in which the machine is left. -/
abbrev Answer := Bool × State

/-! ## Runs of one test -/

/-- How many characters from a position on pass a test, up to a limit.  Counting moves the noted
position along where a test is made on lower-case forms of which several may be the same. -/
def countFrom (text : Array Char) (test : CharTest) : (limit : Nat) → (position : Nat) → Nat
  | 0, _ => 0
  | limit + 1, position =>
      if text[position]?.any test.accepts then countFrom text test limit (position + 1) + 1 else 0

/-- Whether `count` characters are the same at two positions. -/
def isRepeated (text : Array Char) (f : Folding) : (count first second : Nat) → Bool
  | 0, _, _ => true
  | count + 1, first, second =>
      match text[first]?, text[second]? with
      | some c, some d => f.key c == f.key d && isRepeated text f count (first + 1) (second + 1)
      | _, _ => false

/-! ## Ways to go on

Each of these gets the rest as a function of the state and the position from which it is tried. -/

/-- Try the rest at the last of `extra` positions behind `first`, and at those before it down to
`first`, wherever it may begin. -/
def backward (tryAt : State → Nat → Answer) (may : Nat → Bool) (undo : State → State)
    (first : Nat) : (extra : Nat) → State → Answer
  | 0, s =>
      if may first then
        match tryAt (s.moved first) first with
        | (true, s') => (true, s')
        | (false, s') => (false, undo s')
      else (false, s)
  | extra + 1, s =>
      let here := first + extra + 1
      if may here then
        match tryAt (s.moved here) here with
        | (true, s') => (true, s')
        | (false, s') => backward tryAt may undo first extra (undo s')
      else backward tryAt may undo first extra s

/-- Try the rest at a position, and behind each further character that passes a test, of which at
most `extra` are taken.  A character beyond them is counted, but the rest is not tried behind it. -/
def forward (text : Array Char) (test : CharTest) (tryAt : State → Nat → Answer)
    (undo : State → State) : (extra : Nat) → (here : Nat) → State → Answer
  | 0, here, s =>
      match tryAt (s.moved here) here with
      | (true, s') => (true, s')
      | (false, s') =>
          let counted := test.isFolded && text[here]?.any test.accepts
          (false, (undo s').moved (if counted then here + 1 else here))
  | extra + 1, here, s =>
      match tryAt (s.moved here) here with
      | (true, s') => (true, s')
      | (false, s') =>
          let s' := (undo s').moved here
          if text[here]?.any test.accepts then forward text test tryAt undo extra (here + 1) s'
          else (false, s')

/-- Try alternatives at a position, leaving out those that cannot begin there. -/
def firstOf (tryAt : State → List Instruction → Answer) (c : Option Char) (undo : State → State)
    (here : Nat) : List (List Instruction) → State → Answer
  | [], s => (false, s)
  | code :: more, s =>
      if Instruction.mayBegin c code then
        match tryAt (s.moved here) code with
        | (true, s') => (true, s')
        | (false, s') => firstOf tryAt c undo here more (undo s')
      else firstOf tryAt c undo here more s

/-- Repeat one test at a position, before the instructions `rest`, which `onward` carries out. -/
def runFrom (text : Array Char) (style : Style) (least : Nat) (most : Option Nat) (test : CharTest)
    (rest : List Instruction) (onward : State → Nat → Answer) (undo : State → State) (here : Nat)
    (s : State) : Answer :=
  let room := text.size - here
  if room < least then (false, s)
  else
    let limit := min room (most.getD room)
    let n := countFrom text test (if style == .lazy then least else limit) here
    let s := s.moved (if test.isFolded then here + n else here)
    if n < least then (false, s)
    else if style == .possessive then onward (s.moved (here + n)) (here + n)
    else if rest.isEmpty then (true, s.moved (here + n))
    else if style == .lazy then
      forward text test onward undo (limit - least) (here + least) s
    else
      backward onward (fun p => Instruction.mayFollow text[p]? rest) undo (here + least) (n - least)
        s

/-! ## Repetitions that never give back -/

/-- Exactly `n` rounds, each from the position noted by the one before it. -/
def heldRounds (tryAt : State → Nat → Answer) : Nat → State → Answer
  | 0, s => (true, s)
  | n + 1, s =>
      match tryAt s s.position with
      | (true, s') => heldRounds tryAt n s'
      | (false, s') => (false, s')

/-- As many rounds as can be had, up to a limit.  A round that moves nothing is the last one; one
that fails gives its marks back, but not the position it noted. -/
def furtherHeldRounds (tryAt : State → Nat → Answer) : (limit : Nat) → (last : Option Nat) →
    State → State
  | 0, _, s => s
  | limit + 1, last, s =>
      if last = some s.position then s
      else
        match tryAt s s.position with
        | (true, s') => furtherHeldRounds tryAt limit (some s.position) s'
        | (false, s') => { s' with marks := s.marks }

/-- Repeat without giving back from a position, and go on where the last round noted its end.  No
more rounds than there are positions, and one, move anything. -/
def holdFrom (size least : Nat) (most : Option Nat) (round onward : State → Nat → Answer)
    (here : Nat) (s : State) : Answer :=
  match heldRounds round least (s.moved here) with
  | (false, t) => (false, t.moved here)
  | (true, t) =>
      let limit := min (size + 2) ((most.map (· - least)).getD (size + 2))
      let t := furtherHeldRounds round limit none t
      onward t t.position

/-! ## Repetitions under way -/

/-- A repetition under way: its bounds, a round and what stands behind the repetition, the number
of rounds begun, and where the last round beyond the required ones began. -/
structure Repetition where
  isLazy : Bool
  least : Nat
  most : Option Nat
  body : List Instruction
  tail : List Instruction
  begun : Nat
  last : Option Nat

/-- Whether there may be another round from a position: not beyond the greatest number, and not
where the last one began. -/
def Repetition.mayGoOn (r : Repetition) (here : Nat) : Bool :=
  r.most.all (r.begun < ·) && r.last.all (· != here)

/-- The repetition with another required round begun. -/
def Repetition.required (r : Repetition) : Repetition := { r with begun := r.begun + 1 }

/-- The repetition with another round begun at a position. -/
def Repetition.further (r : Repetition) (here : Nat) : Repetition :=
  { r with begun := r.begun + 1, last := some here }

/-- An answer that, when it is that nothing was found, notes a position. -/
def noting (here : Nat) : Answer → Answer
  | (true, s) => (true, s)
  | (false, s) => (false, s.moved here)

/-- Behind a round, or before the first one: the required rounds come first, then further ones and
the tail in the order that the style asks for.  `inside` says whether the repetition stands in
another one. -/
def Repetition.goOn (r : Repetition) (inside : Bool) (round : State → Repetition → Answer)
    (tail : State → Answer) (here : Nat) (s : State) : Answer :=
  let s := s.moved here
  if r.begun < r.least then noting here (round s r.required)
  else if r.isLazy then
    match tail s with
    | (true, t) => (true, t)
    | (false, t) =>
        let t := (t.takeBack s inside).moved here
        if r.mayGoOn here then noting here (round t (r.further here)) else (false, t)
  else if r.mayGoOn here then
    match round s (r.further here) with
    | (true, t) => (true, t)
    | (false, _) => noting here (tail s)
  else noting here (tail s)

/-! ## Instructions -/

/-- The character before a position. -/
def before? (text : Array Char) (here : Nat) : Option Char :=
  if here = 0 then none else text[here - 1]?

/-- Carry out instructions at a position, inside the given repetitions.  `fuel` exceeds the number
of instructions that can follow one another. -/
def execute (text : Array Char) :
    (fuel : Nat) → State → (here : Nat) → List Repetition → List Instruction → Answer
  | 0, s, _, _, _ => (false, s)
  | _ + 1, s, here, _, [] => (true, s.moved here)
  | fuel + 1, s, here, reps, i :: rest =>
      let undo (t : State) : State := t.takeBack s (!reps.isEmpty)
      let onward (t : State) (p : Nat) : Answer := execute text fuel t p reps rest
      match i with
      | .char test => if text[here]?.any test.accepts then onward s (here + 1) else (false, s)
      | .anchor a =>
          if a.isAt (before? text here) (text.extract here (here + 2)).toList then onward s here
          else (false, s)
      | .again index f =>
          match s.taken? index with
          | some (first, last) =>
              if isRepeated text f (last - first) first here then onward s (here + (last - first))
              else (false, s)
          | none => (false, s)
      | .mark number => onward (s.mark number here) here
      | .pass => onward s here
      | .branch alternatives =>
          firstOf (fun t code => execute text fuel t here reps (code ++ rest)) text[here]? undo here
            alternatives s
      | .run style least most test =>
          runFrom text style least most test rest onward undo here s
      | .loop isLazy least most body =>
          let r : Repetition := ⟨isLazy, least, most, body ++ [.next], rest, 0, none⟩
          execute text fuel (s.moved here) here (r :: reps) [.next]
      | .next =>
          match reps with
          | [] => (false, s)
          | r :: outer =>
              r.goOn (!outer.isEmpty) (fun t r => execute text fuel t here (r :: outer) r.body)
                (fun t => execute text fuel t here outer r.tail) here s
      | .hold least most body =>
          holdFrom text.size least most (fun t p => execute text fuel t p reps body) onward here s
      | .atomic body =>
          match execute text fuel (s.moved here) here reps body with
          | (true, t) => onward t t.position
          | (false, t) => (false, t.moved here)
      | .look negated back body =>
          if here < back then (if negated then onward s here else (false, s))
          else
            match execute text fuel (s.moved (here - back)) (here - back) reps body, negated with
            | (true, t), true => (false, t)
            | (false, t), true => onward (undo t) here
            | (true, t), false => onward t here
            | (false, t), false => (false, t)
      | .choose index present absent =>
          let code := if (s.taken? index).isSome then present else absent
          execute text fuel s here reps (code ++ rest)

/-- Whether terms describe some part of a text.  A part has at least as many characters as the terms
take, so that it cannot begin too close to the end. -/
def finds (terms : List Term) (s : List Char) : Bool :=
  let text := s.toArray
  let least := (Term.widthOf terms).least
  let code := Term.instructionsOf terms
  let fuel := Instruction.stepsOf text.size code + 1
  least ≤ text.size && (List.range (text.size + 1 - (least - 1))).any fun start =>
    (execute text fuel ⟨start, #[]⟩ start [] code).1

end FormRules.Pattern.Machine
