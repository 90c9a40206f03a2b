import FormRules.Pattern.Character
/-!
# Switches of patterns

Switches change how a pattern is read or how its characters are compared.  They hold for a whole
pattern or for the text of a group.
-/
namespace FormRules.Pattern

/-- Switches that change how a pattern is read or compared. -/
structure Flags where
  ignoreCase : Bool
  multiline : Bool
  dotAll : Bool
  verbose : Bool
  ascii : Bool
  full : Bool
  template : Bool
deriving DecidableEq, Repr, Inhabited

namespace Flags

def none : Flags := ⟨false, false, false, false, false, false, false⟩

/-- Set the switch of a letter. -/
def set (f : Flags) (letter : Char) : Flags :=
  match letter with
  | 'i' => { f with ignoreCase := true }
  | 'm' => { f with multiline := true }
  | 's' => { f with dotAll := true }
  | 'x' => { f with verbose := true }
  | 'a' => { f with ascii := true }
  | 'u' => { f with full := true }
  | 't' => { f with template := true }
  | _ => f

/-- Combine the switches pairwise. -/
def zip (op : Bool → Bool → Bool) (f g : Flags) : Flags :=
  ⟨op f.ignoreCase g.ignoreCase, op f.multiline g.multiline, op f.dotAll g.dotAll,
    op f.verbose g.verbose, op f.ascii g.ascii, op f.full g.full, op f.template g.template⟩

def union : Flags → Flags → Flags := zip (· || ·)

def without : Flags → Flags → Flags := zip fun a b => a && !b

/-- Whether two sets of switches share one. -/
def meets (f g : Flags) : Bool := zip (· && ·) f g != none

/-- The flags inside a group that adds some and removes others; a new way to compare characters
replaces the old one. -/
def inside (f added removed : Flags) : Flags :=
  let f := if added.ascii || added.full then { f with ascii := false, full := false } else f
  (f.union added).without removed

/-- How characters are compared under these flags. -/
def folding (f : Flags) : Folding :=
  if !f.ignoreCase then .exact else if f.ascii then .ascii else .full

end Flags

end FormRules.Pattern
