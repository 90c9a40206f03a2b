import FormRules.Calendar.Moment
import FormRules.Number.Binary64
/-!
# Values

What a form's fields, model, messages and hooks hold is not typed in advance: nothing, flags,
numbers, texts, bytes, sequences, mappings, sets, selected files, dates and moments.  Flags and
numbers compare with each other by size, so that `true`, `1` and `1.0` are one key of a mapping.

A document can hold a list or a mapping that holds itself.  Such values come in rings: the nodes of
a ring refer to each other by their places in it, and the value is the node at one of the places.
-/
namespace FormRules

/-- A value of a form. -/
inductive Value where
  | null
  | bool (b : Bool)
  | int (n : Int)
  | float (x : Binary64)
  /-- What is no number.  It has no size, and is told from others of its kind by a mark. -/
  | nan (mark : Nat)
  | str (s : String)
  | bytes (bs : List UInt8)
  | list (items : List Value)
  /-- A sequence that cannot change, and may therefore be a key. -/
  | tuple (items : List Value)
  | map (entries : List (Value × Value))
  | set (members : List Value)
  /-- A selected file: its name, its size in bytes and its media type. -/
  | file (name size type : Value)
  | date (d : Date)
  | moment (m : Moment)
  /-- The node at a place of a ring. -/
  | ring (nodes : List Value) (place : Nat)
  /-- In a node of a ring, the node at a place of the same ring. -/
  | again (place : Nat)
deriving Inhabited, Repr

namespace Value

/-- The number that a flag or number denotes. -/
inductive Quantity where
  | whole (n : Int)
  | binary (x : Binary64)

/-- Flags count as 0 and 1. -/
def quantity? : Value → Option Quantity
  | .bool b => some (.whole (if b then 1 else 0))
  | .int n => some (.whole n)
  | .float x => some (.binary x)
  | .nan _ => some (.binary .nan)
  | _ => none

/-- Order of two quantities, absent when one is no number. -/
def Quantity.compare? : Quantity → Quantity → Option Ordering
  | .whole m, .whole n => some (compare m n)
  | .whole m, .binary y => (y.compareInt? m).map Ordering.swap
  | .binary x, .whole n => x.compareInt? n
  | .binary x, .binary y => x.compare? y

/-! ## Equality -/

mutual

/-- Whether a value is found where another one is looked for: it is the same one or equal to it.
Mappings are equal when they hold equal values under equal keys, in any order, and sets when each
holds the members of the other. -/
def same : Value → Value → Bool
  | .null, .null => true
  | .nan m, .nan n => m == n
  | .str s, .str t => s == t
  | .bytes bs, .bytes cs => bs == cs
  | .date d, .date e => d == e
  | .moment m, .moment n => m.same n
  | .list xs, .list ys => sameItems xs ys
  | .tuple xs, .tuple ys => sameItems xs ys
  | .map xs, .map ys => xs.length == ys.length && sameEntries xs ys
  | .set xs, .set ys => xs.length == ys.length && sameMembers xs ys
  | .file a b c, .file a' b' c' => same a a' && same b b' && same c c'
  | .ring xs p, .ring ys q => p == q && sameItems xs ys
  | .again p, .again q => p == q
  | .float x, .float y => x == y || x.compare? y == some .eq
  | x, y => match quantity? x, quantity? y with
    | some p, some q => p.compare? q == some .eq
    | _, _ => false
termination_by structural x => x

/-- Equality of sequences, item by item. -/
def sameItems : List Value → List Value → Bool
  | [], [] => true
  | x :: xs, y :: ys => same x y && sameItems xs ys
  | _, _ => false
termination_by structural xs => xs

/-- Whether every entry of the first mapping is one of the second. -/
def sameEntries : List (Value × Value) → List (Value × Value) → Bool
  | [], _ => true
  | (k, v) :: rest, ys => (ys.any fun e => same k e.1 && same v e.2) && sameEntries rest ys
termination_by structural xs => xs

/-- Whether every member of the first set is one of the second. -/
def sameMembers : List Value → List Value → Bool
  | [], _ => true
  | x :: rest, ys => (ys.any fun y => same x y) && sameMembers rest ys
termination_by structural xs => xs

end

/-- Whether two values are equal.  What is no number does not even equal itself. -/
def equals (x y : Value) : Bool :=
  match x with
  | .nan _ | .float .nan => false
  | x => x.same y

mutual

/-- Whether a value may be a key: lists, mappings and sets may not, at any depth. -/
def isKey : Value → Bool
  | .list _ | .map _ | .set _ | .ring .. | .again _ => false
  | .tuple xs => areKeys xs
  | .file a b c => isKey a && isKey b && isKey c
  | _ => true

/-- Whether all items may be keys. -/
def areKeys : List Value → Bool
  | [] => true
  | x :: xs => isKey x && areKeys xs

end

/-! ## Rings -/

mutual

/-- A part of a node of a ring, as it is outside of the node. -/
def released (nodes : List Value) : Value → Value
  | .again place => .ring nodes place
  | .tuple items => .tuple (releasedItems nodes items)
  | v => v

/-- Parts of a node of a ring. -/
def releasedItems (nodes : List Value) : List Value → List Value
  | [] => []
  | v :: rest => released nodes v :: releasedItems nodes rest

end

/-- The list or mapping that a node of a ring is; any other value as it is. -/
def opened : Value → Value
  | .ring nodes place => match (nodes[place]?).getD .null with
    | .list items => .list (items.map (released nodes))
    | .map entries => .map (entries.map fun e => (e.1, released nodes e.2))
    | _ => .ring nodes place
  | v => v

/-! ## Kinds of values -/

/-- Whether a value counts as true: everything but nothing, zero and what is empty.  A node of a
ring holds something. -/
def truthy : Value → Bool
  | .null => false
  | .bool b => b
  | .int n => n != 0
  | .float x => x.isNonzero
  | .str s => s != ""
  | .bytes bs => !bs.isEmpty
  | .list xs | .tuple xs | .set xs => !xs.isEmpty
  | .map es => !es.isEmpty
  | _ => true

/-- Whether a value is exactly the flag `true`. -/
def isTrue : Value → Bool
  | .bool true => true
  | _ => false

theorem isTrue_iff {v : Value} : v.isTrue = true ↔ v = .bool true := by
  unfold isTrue
  split <;> simp_all

def isStr : Value → Bool
  | .str _ => true
  | _ => false

/-- The text of a value that is one. -/
def str? : Value → Option String
  | .str s => some s
  | _ => none

end Value

end FormRules
