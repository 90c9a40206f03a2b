/-!
# Sets of code points in run-length form

A property of Unicode is kept as a list of lengths: a gap, a run of members, a gap, and so on,
counted from the first code point outside ASCII.  Membership walks the list once.
-/
namespace FormRules.Unicode

/-- Whether position `n` falls into one of the runs; lengths alternate, a gap first. -/
def inRuns : List Nat → Nat → Bool
  | gap :: size :: rest, n =>
      if n < gap then false
      else if n < gap + size then true
      else inRuns rest (n - (gap + size))
  | _, _ => false

/-- A property that is `ascii` below U+0080 and given by runs from there on. -/
def hasProperty (ascii : Char → Bool) (runs : List Nat) (c : Char) : Bool :=
  if c.toNat < 128 then ascii c else inRuns runs (c.toNat - 128)

end FormRules.Unicode
