import FormRules.Failure
import FormRules.Text.Split
import FormRules.Value.Table
/-!
# Values as collections

A model or a set of values is meant to be a mapping, but any value may be given for it.  Whether a
name is in such a value, and what is there, follows the kind of the value: entries of a mapping,
members and positions of a sequence, members of a set, parts of a text or of bytes.
-/
namespace FormRules.Value

/-- The members of a value that has some, in order. -/
def members? (v : Value) : Option (List Value) :=
  match v.opened with
  | .list xs | .tuple xs | .set xs => some xs
  | .map es => some (es.map (·.1))
  | .bytes bs => some (bs.map fun b => .int b.toNat)
  | .str s => some (s.toList.map fun c => .str (String.ofList [c]))
  | _ => none

/-- The members of a value that must have some. -/
def members (v : Value) : Outcome (List Value) :=
  match v.members? with
  | some xs => .ok xs
  | none => .error .typeMismatch

/-- The whole number that a flag or number is, where one is wanted. -/
def whole? : Value → Option Int
  | .int n => some n
  | .bool b => some (if b then 1 else 0)
  | _ => none

/-- Whether a byte or a run of bytes is among bytes. -/
def hasBytes (bs : List UInt8) (part : Value) : Outcome Bool :=
  match part.whole?, part with
  | some n, _ =>
      if 0 ≤ n ∧ n < 256 then .ok (bs.contains n.toNat.toUInt8) else .error .byteTooLarge
  | none, .bytes part => .ok (Text.occursIn part bs)
  | none, _ => .error .typeMismatch

/-- Whether a name is in a collection. -/
def hasItem (collection name : Value) : Outcome Bool :=
  match collection.opened, name with
  | .map entries, _ =>
      if name.isKey then .ok (Table.contains entries name) else .error .typeMismatch
  | .list xs, _ | .tuple xs, _ => .ok (xs.any (·.same name))
  | .set _, .set _ => .ok false
  | .set xs, _ => if name.isKey then .ok (xs.any (·.same name)) else .error .typeMismatch
  | .str s, .str part => .ok (Text.occursIn part.toList s.toList)
  | .bytes bs, part => hasBytes bs part
  | _, _ => .error .typeMismatch

/-- The item at a position, counted from the end if negative. -/
def atPosition (xs : List Value) (position : Int) : Outcome Value :=
  let index := if position < 0 then position + xs.length else position
  if index < 0 then .error .noItem
  else match xs[index.toNat]? with
    | some x => .ok x
    | none => .error .noItem

/-- The items of a value that are found by position. -/
def items? : Value → Option (List Value)
  | .list xs | .tuple xs => some xs
  | .bytes bs => some (bs.map fun b => .int b.toNat)
  | _ => none

/-- The item under a name of a collection that has it. -/
def item (collection name : Value) : Outcome Value :=
  match collection.opened with
  | .map entries =>
      if !name.isKey then .error .typeMismatch
      else match Table.find? entries name with
        | some v => .ok v
        | none => .error (.noEntry name)
  | v => match v.items?, name.whole? with
    | some xs, some n => atPosition xs n
    | _, _ => .error .typeMismatch

/-- The entry of a mapping, or nothing; only a mapping can be asked. -/
def entry (mapping name : Value) : Outcome Value :=
  match mapping.opened with
  | .map entries =>
      if name.isKey then .ok ((Table.find? entries name).getD .null) else .error .typeMismatch
  | _ => .error .noAttribute

/-- Entries from a sequence of pairs. -/
def tableOfItems (index : Nat) (table : Table Value) : List Value → Outcome (Table Value)
  | [] => .ok table
  | x :: rest => match members? x with
    | none => .error .typeMismatch
    | some [key, value] =>
        if key.isKey then tableOfItems (index + 1) (table.put key value) rest
        else .error .typeMismatch
    | some pair => .error (.entrySize index pair.length)

/-- The entries of a mapping, or of a sequence of pairs; a value that does not count has none. -/
def toTable (v : Value) : Outcome (Table Value) :=
  if !v.truthy then .ok []
  else match v.opened with
    | .map entries => .ok entries
    | v => match members? v with
      | some items => tableOfItems 0 [] items
      | none => .error .typeMismatch

end FormRules.Value
