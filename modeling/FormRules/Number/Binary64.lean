/-!
# Binary floating-point numbers

A number of 53 bits is a sign, a mantissa and a power of two, or an infinity, or no number.  All
arithmetic goes through exact quotients of natural numbers and one rounding, to the nearest number
and from the middle to the even mantissa.  The mantissa has 53 bits unless the exponent is the
least one, so that equal numbers other than zero have one form.
-/
namespace FormRules

/-- A binary floating-point number. -/
inductive Binary64 where
  /-- The number `± mantissa * 2 ^ exponent`. -/
  | finite (negative : Bool) (mantissa : Nat) (exponent : Int)
  | infinite (negative : Bool)
  | nan
deriving DecidableEq, Repr, Inhabited

namespace Binary64

/-- The exponent of the smallest step between numbers. -/
def leastExponent : Int := -1074

/-- The exponent of the largest numbers. -/
def greatestExponent : Int := 971

/-- Positive or negative zero. -/
def zero (negative : Bool) : Binary64 := .finite negative 0 leastExponent

/-- The natural number nearest to `num / den`, an even one from the middle. -/
def roundDiv (num den : Nat) : Nat :=
  let q := num / den
  let twice := 2 * (num % den)
  if twice < den then q
  else if den < twice then q + 1
  else if q % 2 = 0 then q else q + 1

/-- The quotient `num / (den * 2 ^ e)` as a pair of natural numbers. -/
def scaled (num den : Nat) (e : Int) : Nat × Nat :=
  if 0 ≤ e then (num, den * Nat.pow 2 e.toNat) else (num * Nat.pow 2 (-e).toNat, den)

/-- The greatest `l` with `2 ^ l ≤ num / den`, for positive `num` and `den`. -/
def floorLog (num den : Nat) : Int :=
  let l : Int := (Nat.log2 num : Int) - Nat.log2 den
  let (n, d) := scaled num den l
  if d ≤ n then l else l - 1

/-- The number nearest to `num / den`; beyond the largest number it is infinite. -/
def ofRatio (negative : Bool) (num den : Nat) : Binary64 :=
  if num = 0 then zero negative
  else
    let e := max (floorLog num den - 52) leastExponent
    let (n, d) := scaled num den e
    let m := roundDiv n d
    let (m, e) := if m = Nat.pow 2 53 then (Nat.pow 2 52, e + 1) else (m, e)
    if greatestExponent < e then .infinite negative else .finite negative m e

/-- The number nearest to `digits * 10 ^ exponent`. -/
def ofDecimal (negative : Bool) (digits : Nat) (exponent : Int) : Binary64 :=
  if digits = 0 then zero negative
  -- Far outside the range of the numbers the power of ten is not worth its size.
  else if 400 ≤ exponent then .infinite negative
  else if exponent < -400 - (Nat.log2 digits : Int) then zero negative
  else if 0 ≤ exponent then ofRatio negative (digits * Nat.pow 10 exponent.toNat) 1
  else ofRatio negative digits (Nat.pow 10 (-exponent).toNat)

/-- The number nearest to an integer. -/
def ofInt (n : Int) : Binary64 := ofRatio (n < 0) n.natAbs 1

/-- The absolute value of a finite number as a quotient. -/
def ratio (mantissa : Nat) (exponent : Int) : Nat × Nat :=
  if 0 ≤ exponent then (mantissa * Nat.pow 2 exponent.toNat, 1)
  else (mantissa, Nat.pow 2 (-exponent).toNat)

/-- A finite number as a quotient of an integer and a positive natural number. -/
def signedRatio (negative : Bool) (mantissa : Nat) (exponent : Int) : Int × Nat :=
  let (n, d) := ratio mantissa exponent
  (if negative then -(n : Int) else n, d)

/-- The order of two numbers, absent when one of them is no number. -/
def compare? : Binary64 → Binary64 → Option Ordering
  | .nan, _ => none
  | _, .nan => none
  | .infinite s, .infinite t => some (if s = t then .eq else if s then .lt else .gt)
  | .infinite s, .finite .. => some (if s then .lt else .gt)
  | .finite .., .infinite t => some (if t then .gt else .lt)
  | .finite s m e, .finite t n f =>
      let (a, b) := signedRatio s m e
      let (c, d) := signedRatio t n f
      some (compare (a * d) (c * b))

/-- The order of a number and an integer, without rounding the integer. -/
def compareInt? : Binary64 → Int → Option Ordering
  | .nan, _ => none
  | .infinite s, _ => some (if s then .lt else .gt)
  | .finite s m e, n =>
      let (a, b) := signedRatio s m e
      some (compare a (n * b))

/-- Numerical equality: the two zeros are equal, and a number that is no number equals nothing. -/
def eq (x y : Binary64) : Bool := compare? x y == some .eq

def lt (x y : Binary64) : Bool := compare? x y == some .lt

/-- The product, rounded once. -/
def mul : Binary64 → Binary64 → Binary64
  | .nan, _ => .nan
  | _, .nan => .nan
  | .infinite s, .infinite t => .infinite (s != t)
  | .infinite s, .finite t n _ => if n = 0 then .nan else .infinite (s != t)
  | .finite s m _, .infinite t => if m = 0 then .nan else .infinite (s != t)
  | .finite s m e, .finite t n f =>
      let (a, b) := ratio m e
      let (c, d) := ratio n f
      if a * c = 0 then zero (s != t) else ofRatio (s != t) (a * c) (b * d)

/-- The sum, rounded once. -/
def add : Binary64 → Binary64 → Binary64
  | .nan, _ => .nan
  | _, .nan => .nan
  | .infinite s, .infinite t => if s = t then .infinite s else .nan
  | .infinite s, .finite .. => .infinite s
  | .finite .., .infinite t => .infinite t
  | .finite s m e, .finite t n f =>
      let (a, b) := signedRatio s m e
      let (c, d) := signedRatio t n f
      let num := a * d + c * b
      if num = 0 then zero (s && t) else ofRatio (num < 0) num.natAbs (b * d)

/-- The number with the other sign. -/
def neg : Binary64 → Binary64
  | .finite s m e => .finite (!s) m e
  | .infinite s => .infinite (!s)
  | .nan => .nan

/-- The integer part of a finite number, towards zero. -/
def truncate? : Binary64 → Option Int
  | .finite s m e =>
      let (n, d) := ratio m e
      let q := n / d
      some (if s then -(q : Int) else q)
  | _ => none

/-- Whether the number is other than zero. -/
def isNonzero : Binary64 → Bool
  | .finite _ m _ => m != 0
  | _ => true

end Binary64

end FormRules
