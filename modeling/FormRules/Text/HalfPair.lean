/-!
# Halves of pairs

Outside the basic plane a character is written as a pair of codes where codes have 16 bits, and a
text may come to hold half of such a pair that stands alone.  There is no character of that code,
so one stands for it that is not assigned either: those of plane 11 whose lower 16 bits are the
code.
-/
namespace FormRules.Text

/-- Whether a code is the first half of a pair. -/
def isHighHalf (code : Nat) : Bool := 0xd800 ≤ code && code < 0xdc00

/-- Whether a code is the second half of a pair. -/
def isLowHalf (code : Nat) : Bool := 0xdc00 ≤ code && code < 0xe000

/-- Whether a code is half of a pair. -/
def isHalf (code : Nat) : Bool := 0xd800 ≤ code && code < 0xe000

/-- What is added to the code of a half. -/
def halfPlane : Nat := 0xb0000

/-- The character of a code; for half of a pair, the one that stands for it. -/
def characterOf (code : Nat) : Char :=
  if isHalf code then Char.ofNat (halfPlane + code) else Char.ofNat code

/-- The code that a character stands for: its own, or that of half of a pair. -/
def codeOf (c : Char) : Nat :=
  if halfPlane ≤ c.toNat && isHalf (c.toNat - halfPlane) then c.toNat - halfPlane else c.toNat

/-- The half of a pair that a character stands for, if it stands for one. -/
def halfPair? (c : Char) : Option Nat := if isHalf (codeOf c) then some (codeOf c) else none

/-- The character of a pair. -/
def pairOf (high low : Nat) : Char :=
  Char.ofNat (0x10000 + (high - 0xd800) * 0x400 + (low - 0xdc00))

/-- Whether a half stands for a byte that is no character. -/
def isByteMark (code : Nat) : Bool := 0xdc80 ≤ code && code < 0xdd00

/-- Whether a text holds half of a pair. -/
def holdsHalf (s : List Char) : Bool := s.any fun c => (halfPair? c).isSome

end FormRules.Text
