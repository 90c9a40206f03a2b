import FormRules.Text.HalfPair
import FormRules.Unicode.Printable
/-!
# Quoted texts

A text is shown between single quotes, or between double quotes when it holds a single quote and
no double one.  The quote and the backslash get a backslash, and characters that are not printable
are written by name or by code point.
-/
namespace FormRules.Text

/-- The lower-case hexadecimal digits of `n`, padded with zeros to `width`. -/
def hexadecimal (width n : Nat) : List Char :=
  let digits := Nat.toDigits 16 n
  List.replicate (width - digits.length) '0' ++ digits

/-- A character by its code point, in the shortest of three widths. -/
def codePoint (n : Nat) : List Char :=
  if n < 0x100 then '\\' :: 'x' :: hexadecimal 2 n
  else if n < 0x10000 then '\\' :: 'u' :: hexadecimal 4 n
  else '\\' :: 'U' :: hexadecimal 8 n

/-- One character inside quotes. -/
def quotedChar (quote c : Char) : List Char :=
  if c = quote ∨ c = '\\' then ['\\', c]
  else if c = '\n' then ['\\', 'n']
  else if c = '\r' then ['\\', 'r']
  else if c = '\t' then ['\\', 't']
  else if Unicode.isPrintable c then [c]
  else codePoint (codeOf c)

/-- The quote that surrounds a text. -/
def quoteFor (s : List Char) : Char :=
  if s.contains '\'' && !s.contains '"' then '"' else '\''

/-- A text between quotes. -/
def quoted (s : List Char) : List Char :=
  let quote := quoteFor s
  quote :: (s.flatMap (quotedChar quote) ++ [quote])

/-- A string between quotes. -/
def quote (s : String) : String := String.ofList (quoted s.toList)

/-- Texts between quotes, in brackets and with commas. -/
def quoteList (items : List String) : String :=
  "[" ++ ", ".intercalate (items.map quote) ++ "]"

end FormRules.Text
