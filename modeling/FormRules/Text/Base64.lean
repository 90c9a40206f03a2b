/-!
# Bytes in base 64

Four characters stand for three bytes.  Characters that are no digits of base 64 do not count, and
equals signs that complete a group of four end the text.
-/
namespace FormRules.Text.Base64

/-- The value of a digit. -/
def digit? (c : Char) : Option Nat :=
  if 'A' ≤ c ∧ c ≤ 'Z' then some (c.toNat - 65)
  else if 'a' ≤ c ∧ c ≤ 'z' then some (c.toNat - 71)
  else if c.isDigit then some (c.toNat + 4)
  else if c = '+' then some 62
  else if c = '/' then some 63
  else none

/-- The digits up to the end, and whether equals signs complete the last group.  `held` is the
number of digits of the group that is being read, `signs` that of the equals signs behind them. -/
def digitsFrom (held signs : Nat) : List Char → List Nat × Bool
  | [] => ([], held = 0)
  | c :: rest =>
      if c = '=' then
        if held < 2 then digitsFrom held signs rest
        else if 4 ≤ held + signs + 1 then ([], true)
        else digitsFrom held (signs + 1) rest
      else match digit? c with
        | none => digitsFrom held signs rest
        | some d =>
            let (more, complete) := digitsFrom ((held + 1) % 4) 0 rest
            (d :: more, complete)

/-- The bytes of digits in groups of four, the last of which may be shorter. -/
def bytesOf : List Nat → List UInt8
  | a :: b :: c :: d :: rest =>
      (4 * a + b / 16).toUInt8 :: (16 * b + c / 4).toUInt8 :: (64 * c + d).toUInt8 :: bytesOf rest
  | [a, b, c] => [(4 * a + b / 16).toUInt8, (16 * b + c / 4).toUInt8]
  | [a, b] => [(4 * a + b / 16).toUInt8]
  | _ => []

/-- The bytes of a text, unless its last group is not complete. -/
def read? (s : List Char) : Option (List UInt8) :=
  let (digits, complete) := digitsFrom 0 0 s
  if complete then some (bytesOf digits) else none

end FormRules.Text.Base64
