import FormRules.Value.Basic
/-!
# The order of a set

The members of a set stand in slots, and are listed in the order of the slots.  A number has a
residue, which names the slot that it is put into, or near to if that is taken; the number of slots
is a power of two.  Members of other kinds have no residue that could be known, and a set that
holds one is listed in the order in which its members came.
-/
namespace FormRules.Value

/-- The modulus of residues. -/
def residueModulus : Nat := Nat.pow 2 61 - 1

/-- The residue of a number of the given sign and size; it is never -1. -/
def signedResidue (negative : Bool) (r : Nat) : Int :=
  if !negative then r else if r = 1 then -2 else -(r : Int)

/-- The residue of a number: that of its size, where two to the power of 61 counts as one. -/
def residue? : Value → Option Int
  | .bool b => some (if b then 1 else 0)
  | .int n => some (signedResidue (n < 0) (n.natAbs % residueModulus))
  | .float (.finite s m e) =>
      some (signedResidue s (m % residueModulus * Nat.pow 2 (e % 61).toNat % residueModulus))
  | .float (.infinite s) => some (signedResidue s 314159)
  | _ => none

/-- The number of slots for a number of members. -/
def slotCount (members : Nat) : Nat :=
  if 5 * members < 21 then 8 else Nat.nextPowerOfTwo (2 * members + 1)

/-- The slots that are tried from a slot on; the ones right behind a slot are tried first, if they
all exist. -/
def slotsFrom (count : Nat) : (fuel : Nat) → (shifted slot : Nat) → List Nat
  | 0, _, slot => [slot]
  | fuel + 1, shifted, slot =>
      let shifted := shifted / 32
      (if slot + 9 < count then (List.range 10).map (slot + ·) else [slot]) ++
        slotsFrom count fuel shifted ((slot * 5 + 1 + shifted) % count)

/-- Put a member with a residue into the first slot that is free. -/
def putInSlot (slots : List (Option Value)) (residue : Int) (v : Value) : List (Option Value) :=
  let word := (residue % (Nat.pow 2 64 : Nat)).toNat
  let tried := slotsFrom slots.length (2 * slots.length + 16) word (word % slots.length)
  match tried.find? fun slot => ((slots[slot]?).join).isNone with
  | some slot => slots.set slot (some v)
  | none => slots

/-- A set of different members, in the order of their slots. -/
def setOf (members : List Value) : Value :=
  match members.mapM fun v => (residue? v).map fun r => (r, v) with
  | none => .set members
  | some placed =>
      let slots := List.replicate (slotCount members.length) none
      .set ((placed.foldl (fun slots p => putInSlot slots p.1 p.2) slots).filterMap id)

end FormRules.Value
