import FormRules.Number.Binary64
/-!
# The shortest decimal that reads back

Among the decimals that round to a given number, the fewest digits win and of those the nearest.
The search tries one digit, two digits, and so on up to seventeen, which always suffice; on each
grid of decimals only the two neighbours of the number are tried.
-/
namespace FormRules.Binary64

/-- A decimal `digits * 10 ^ exponent`. -/
structure Decimal where
  digits : Nat
  exponent : Int
deriving DecidableEq, Repr

/-- The decimal rounds to the positive number of that mantissa and exponent. -/
def Decimal.readsBack (d : Decimal) (mantissa : Nat) (exponent : Int) : Bool :=
  ofDecimal false d.digits d.exponent == .finite false mantissa exponent

/-- How many decimal digits a positive natural number has. -/
def digitCount (n : Nat) : Nat := (Nat.toDigits 10 n).length

/-- The exponent `p` with `10 ^ (p - 1) ≤ num / den < 10 ^ p`, for positive `num` and `den`. -/
def pointPosition (num den : Nat) : Int :=
  if den ≤ num then digitCount (num / den)
  else 1 - (digitCount ((den - 1) / num) : Int)

/-- The neighbours of `num / den` among the multiples of `10 ^ exponent`, the nearer one first. -/
def neighbours (num den : Nat) (exponent : Int) : List Decimal :=
  let (n, d) :=
    if 0 ≤ exponent then (num, den * Nat.pow 10 exponent.toNat)
    else (num * Nat.pow 10 (-exponent).toNat, den)
  let q := n / d
  let twice := 2 * (n % d)
  if twice < d ∨ (twice = d ∧ q % 2 = 0) then [⟨q, exponent⟩, ⟨q + 1, exponent⟩]
  else [⟨q + 1, exponent⟩, ⟨q, exponent⟩]

/-- The shortest decimal of a positive number. -/
def shortest (mantissa : Nat) (exponent : Int) : Decimal :=
  let (num, den) := ratio mantissa exponent
  let p := pointPosition num den
  let candidates := (List.range 17).flatMap fun n => neighbours num den (p - (n + 1 : Nat))
  (candidates.find? (·.readsBack mantissa exponent)).getD ⟨mantissa, exponent⟩

/-- Digits without trailing zeros, and where the point stands counted from their left end. -/
def Decimal.layout (d : Decimal) : List Char × Int :=
  let text := Nat.toDigits 10 d.digits
  let significant := (text.reverse.dropWhile (· == '0')).reverse
  (significant, text.length + d.exponent)

/-- Positional notation is used while the point stands at most sixteen digits to the right of the
first digit and fewer than four zeros to its left. -/
def isPositional (point : Int) : Bool := -4 < point && point ≤ 16

/-- An exponent has a sign and at least two digits. -/
def exponentText (e : Int) : List Char :=
  let digits := Nat.toDigits 10 e.natAbs
  (if e < 0 then '-' else '+') :: (if digits.length < 2 then '0' :: digits else digits)

/-- Digits with the point at its place; a whole number keeps one zero behind the point. -/
def positionalText (digits : List Char) (point : Int) : List Char :=
  if point ≤ 0 then '0' :: '.' :: (List.replicate (-point).toNat '0' ++ digits)
  else
    let whole := digits.take point.toNat
    let fraction := digits.drop point.toNat
    whole ++ List.replicate (point.toNat - whole.length) '0' ++
      '.' :: (if fraction.isEmpty then ['0'] else fraction)

/-- One digit, the others behind a point, and the exponent. -/
def scientificText (digits : List Char) (point : Int) : List Char :=
  (match digits with
    | [] => []
    | [d] => [d]
    | d :: rest => d :: '.' :: rest) ++ 'e' :: exponentText (point - 1)

/-- The text of a number: the shortest decimal, positional in a middle range. -/
def text : Binary64 → List Char
  | .nan => ['n', 'a', 'n']
  | .infinite s => (if s then ['-'] else []) ++ ['i', 'n', 'f']
  | .finite s m e =>
      (if s then ['-'] else []) ++
        (if m = 0 then ['0', '.', '0']
        else
          let (digits, point) := (shortest m e).layout
          if isPositional point then positionalText digits point
          else scientificText digits point)

end FormRules.Binary64
