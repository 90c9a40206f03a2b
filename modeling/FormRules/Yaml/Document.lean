import FormRules.Value.Members
import FormRules.Yaml.Object
/-!
# The value of a document

A collection whose parts have values has a value as well.  Where that leaves collections without a
value there are some that only hold each other and what has a value: they become the nodes of a
ring.

A text is read in blocks, the first of which is twice as long as the others.  A character that no
document can hold makes itself felt as soon as something of its block is wanted.
-/
namespace FormRules.Yaml

/-! ## Values of objects -/

/-- The values of nodes that have one, by number. -/
abbrev Settled := Array (Option Value)

namespace Settled

/-- The value of a part, if it has one. -/
def part? (s : Settled) : Part → Option Value
  | .value v => some v
  | .object n => (s[n]?).join

/-- The value of an object whose parts have values. -/
def object? (part? : Part → Option Value) : Object → Option Value
  | .list items => (items.mapM part?).map .list
  | .pairs items =>
      (items.mapM fun (p : Part × Part) => do
        return Value.tuple [← part? p.1, ← part? p.2]).map .list
  | .map entries =>
      (entries.mapM fun (e : Value × Part) => (part? e.2).map fun v => (e.1, v)).map .map
  | .set members => some (Value.setOf members)

end Settled

namespace Object

/-- The parts of an object. -/
def parts : Object → List Part
  | .list items => items
  | .pairs items => items.flatMap fun p => [p.1, p.2]
  | .map entries => entries.map (·.2)
  | .set _ => []

/-- The objects that an object holds. -/
def held (o : Object) : List NodeId :=
  o.parts.filterMap fun p => match p with
    | .object n => some n
    | .value _ => none

end Object

namespace Objects

def object? (os : Objects) (n : NodeId) : Option Object := (os[n]?).join

/-- The numbers of the objects without a value. -/
def unsettled (os : Objects) (s : Settled) : List NodeId :=
  (List.range os.size).filter fun n => (os.object? n).isSome && ((s[n]?).join).isNone

/-- Give a value to the objects whose parts have one, beginning with the last one. -/
def settleOnce (os : Objects) (s : Settled) : List NodeId → Settled
  | [] => s
  | n :: rest =>
      let s := settleOnce os s rest
      match (os.object? n).bind (Settled.object? s.part?) with
      | some v => s.setIfInBounds n (some v)
      | none => s

/-- The open objects that can be come to from some. -/
def reached (os : Objects) (s : Settled) : (fuel : Nat) → (found new : List NodeId) → List NodeId
  | 0, found, _ => found
  | fuel + 1, found, new =>
      let next := (new.flatMap fun n => ((os.object? n).map Object.held).getD []).eraseDups.filter
        fun n => ((s[n]?).join).isNone && !found.contains n
      if next.isEmpty then found else reached os s fuel (found ++ next) next

/-- Open objects that hold only each other and what has a value: the least of the sets that can be
come to from one object. -/
def least? (os : Objects) (s : Settled) (ns : List NodeId) : Option (List NodeId) :=
  (ns.map fun n => reached os s (ns.length + 1) [] [n]).foldl (fun best r =>
    match best with
    | some b => if r.length < b.length then some r else best
    | none => some r) none

/-- Give values to objects that hold each other. -/
def settleRing (os : Objects) (s : Settled) (ring : List NodeId) : Settled :=
  let inside? : Part → Option Value
    | .object n => match ring.findIdx? (· == n) with
      | some place => some (.again place)
      | none => s.part? (.object n)
    | p => s.part? p
  let nodes := ring.map fun n => ((os.object? n).bind (Settled.object? inside?)).getD .null
  (ring.zipIdx).foldl (fun s e => s.setIfInBounds e.1 (some (.ring nodes e.2))) s

/-- Give a value to every object. -/
def settle (os : Objects) : (fuel : Nat) → (s : Settled) → List NodeId → Settled
  | 0, s, _ => s
  | fuel + 1, s, ns =>
      let next := settleOnce os s ns
      let left := os.unsettled next
      if left.isEmpty then next
      else if left.length < ns.length then settle os fuel next left
      else match least? os next left with
        | some ring =>
            let next := settleRing os next ring
            settle os fuel next (os.unsettled next)
        | none => next

end Objects

/-- The value of a document. -/
def Document.value (d : Document) : Except Fault Value := do
  let (root, os) ← d.build
  let blank : Settled := (List.replicate os.size none).toArray
  let s : Settled := os.settle (2 * os.size + 2) blank (os.unsettled blank)
  return (s.part? root).getD .null

/-! ## Texts -/

/-- Whether a document may hold a character. -/
def isAllowed (c : Char) : Bool :=
  c = '\t' || c = '\n' || c = '\r' || c = '\x85' || (' ' ≤ c && c ≤ '~') ||
    ('\xa0' ≤ c && c ≠ '\ufffe' && c ≠ '\uffff' && (Text.halfPair? c).isNone)

/-- A text with one form of line end. -/
def unifyBreaks : List Char → List Char
  | [] => []
  | '\r' :: '\n' :: rest => '\n' :: unifyBreaks rest
  | c :: rest => (if c = '\r' then '\n' else c) :: unifyBreaks rest

/-- The number of characters in a block of a text. -/
def blockSize : Nat := 4096

/-- Where the block of a position begins. -/
def blockStart (position : Nat) : Nat :=
  if position < 2 * blockSize then 0 else position / blockSize * blockSize

/-- The value of the document in a text; without a document it is nothing. -/
def read (text : String) : Except Fault Value := do
  let s := unifyBreaks text.toList
  let readable := match s.findIdx? fun c => !isAllowed c with
    | none => (s, none)
    | some position => (s.take (blockStart position), s[position]?)
  if let ([], some c) := readable then throw (.character c)
  match ← Document.ofText readable.1 readable.2 with
  | none => return .null
  | some d => d.value

end FormRules.Yaml
