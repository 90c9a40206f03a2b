import FormRules.Unicode.NameTable
/-!
# Characters by name

A character is found by its name, by one of its other names, or by a rule: syllables are named by
the letters they are made of, ideographs by their code, and variation selectors also by a number.
The rules ask for capital letters; otherwise small letters will do.
-/
namespace FormRules.Unicode

/-! ## Digits -/

/-- The value of a capital hexadecimal digit. -/
def capitalHexDigit? (c : Char) : Option Nat :=
  if c.isDigit then some (c.toNat - 48)
  else if 'A' ≤ c && c ≤ 'F' then some (c.toNat - 55)
  else none

/-- The number that capital hexadecimal digits denote. -/
def ofCapitalHex? (digits : List Char) : Option Nat :=
  digits.foldlM (fun n c => do return 16 * n + (← capitalHexDigit? c)) 0

/-! ## Syllables and ideographs -/

/-- The names of the first letters of a syllable. -/
def leadingLetters : List String :=
  ["G", "GG", "N", "D", "DD", "R", "M", "B", "BB", "S", "SS", "", "J", "JJ", "C", "K", "T", "P", "H"]

/-- The names of the vowels of a syllable. -/
def vowels : List String :=
  ["A", "AE", "YA", "YAE", "EO", "E", "YEO", "YE", "O", "WA", "WAE", "OE", "YO", "U", "WEO", "WE",
    "WI", "YU", "EU", "YI", "I"]

/-- The names of the last letters of a syllable. -/
def trailingLetters : List String :=
  ["", "G", "GG", "GS", "N", "NJ", "NH", "D", "L", "LG", "LM", "LB", "LS", "LT", "LP", "LH", "M",
    "B", "BS", "S", "SS", "NG", "J", "C", "K", "T", "P", "H"]

/-- The longest of some names that a text begins with: its place among them, and the rest of the
text. -/
def longestStart? (names : List String) (s : List Char) : Option (Nat × List Char) :=
  let fitting := names.zipIdx.filter fun e => e.1.toList.isPrefixOf s
  fitting.foldl (fun best e =>
    let rest := s.drop e.1.toList.length
    match best with
    | none => some (e.2, rest)
    | some (_, r) => if rest.length < r.length then some (e.2, rest) else best) none

/-- The syllable of a name without its first words. -/
def syllable? (s : List Char) : Option Nat := do
  let (first, s) ← longestStart? leadingLetters s
  let (vowel, s) ← longestStart? vowels s
  let (last, s) ← longestStart? trailingLetters s
  if s.isEmpty then some (0xac00 + (first * 21 + vowel) * 28 + last) else none

/-- The stretches of ideographs that are named by their code. -/
def ideographStretches : List (Nat × Nat) :=
  [(0x3400, 0x4dbf), (0x4e00, 0x9fff), (0x20000, 0x2a6df), (0x2a700, 0x2b738), (0x2b740, 0x2b81d),
    (0x2b820, 0x2cea1), (0x2ceb0, 0x2ebe0), (0x30000, 0x3134a)]

/-- The ideograph of a code of four or five digits. -/
def ideograph? (digits : List Char) : Option Nat := do
  let n ← ofCapitalHex? digits
  if (digits.length == 4 || digits.length == 5) &&
      ideographStretches.any fun e => e.1 ≤ n && n ≤ e.2 then
    some n
  else none

/-! ## Other names -/

/-- Names that characters have beside their own: those of controls, abbreviations, and names that
set a wrong one right. -/
def otherNames : List (Nat × String) :=
  [(0x0, "NULL"), (0x0, "NUL"), (0x1, "START OF HEADING"), (0x1, "SOH"), (0x2, "START OF TEXT"),
    (0x2, "STX"), (0x3, "END OF TEXT"), (0x3, "ETX"), (0x4, "END OF TRANSMISSION"), (0x4, "EOT"),
    (0x5, "ENQUIRY"), (0x5, "ENQ"), (0x6, "ACKNOWLEDGE"), (0x6, "ACK"), (0x7, "ALERT"),
    (0x7, "BEL"), (0x8, "BACKSPACE"), (0x8, "BS"), (0x9, "CHARACTER TABULATION"),
    (0x9, "HORIZONTAL TABULATION"), (0x9, "HT"), (0x9, "TAB"), (0xa, "LINE FEED"),
    (0xa, "NEW LINE"), (0xa, "END OF LINE"), (0xa, "LF"), (0xa, "NL"), (0xa, "EOL"),
    (0xb, "LINE TABULATION"), (0xb, "VERTICAL TABULATION"), (0xb, "VT"), (0xc, "FORM FEED"),
    (0xc, "FF"), (0xd, "CARRIAGE RETURN"), (0xd, "CR"), (0xe, "SHIFT OUT"),
    (0xe, "LOCKING-SHIFT ONE"), (0xe, "SO"), (0xf, "SHIFT IN"), (0xf, "LOCKING-SHIFT ZERO"),
    (0xf, "SI"), (0x10, "DATA LINK ESCAPE"), (0x10, "DLE"), (0x11, "DEVICE CONTROL ONE"),
    (0x11, "DC1"), (0x12, "DEVICE CONTROL TWO"), (0x12, "DC2"), (0x13, "DEVICE CONTROL THREE"),
    (0x13, "DC3"), (0x14, "DEVICE CONTROL FOUR"), (0x14, "DC4"), (0x15, "NEGATIVE ACKNOWLEDGE"),
    (0x15, "NAK"), (0x16, "SYNCHRONOUS IDLE"), (0x16, "SYN"), (0x17, "END OF TRANSMISSION BLOCK"),
    (0x17, "ETB"), (0x18, "CANCEL"), (0x18, "CAN"), (0x19, "END OF MEDIUM"), (0x19, "EOM"),
    (0x1a, "SUBSTITUTE"), (0x1a, "SUB"), (0x1b, "ESCAPE"), (0x1b, "ESC"),
    (0x1c, "INFORMATION SEPARATOR FOUR"), (0x1c, "FILE SEPARATOR"), (0x1c, "FS"),
    (0x1d, "INFORMATION SEPARATOR THREE"), (0x1d, "GROUP SEPARATOR"), (0x1d, "GS"),
    (0x1e, "INFORMATION SEPARATOR TWO"), (0x1e, "RECORD SEPARATOR"), (0x1e, "RS"),
    (0x1f, "INFORMATION SEPARATOR ONE"), (0x1f, "UNIT SEPARATOR"), (0x1f, "US"), (0x20, "SP"),
    (0x7f, "DELETE"), (0x7f, "DEL"), (0x80, "PADDING CHARACTER"), (0x80, "PAD"),
    (0x81, "HIGH OCTET PRESET"), (0x81, "HOP"), (0x82, "BREAK PERMITTED HERE"), (0x82, "BPH"),
    (0x83, "NO BREAK HERE"), (0x83, "NBH"), (0x84, "INDEX"), (0x84, "IND"), (0x85, "NEXT LINE"),
    (0x85, "NEL"), (0x86, "START OF SELECTED AREA"), (0x86, "SSA"),
    (0x87, "END OF SELECTED AREA"), (0x87, "ESA"), (0x88, "CHARACTER TABULATION SET"),
    (0x88, "HORIZONTAL TABULATION SET"), (0x88, "HTS"),
    (0x89, "CHARACTER TABULATION WITH JUSTIFICATION"),
    (0x89, "HORIZONTAL TABULATION WITH JUSTIFICATION"), (0x89, "HTJ"),
    (0x8a, "LINE TABULATION SET"), (0x8a, "VERTICAL TABULATION SET"), (0x8a, "VTS"),
    (0x8b, "PARTIAL LINE FORWARD"), (0x8b, "PARTIAL LINE DOWN"), (0x8b, "PLD"),
    (0x8c, "PARTIAL LINE BACKWARD"), (0x8c, "PARTIAL LINE UP"), (0x8c, "PLU"),
    (0x8d, "REVERSE LINE FEED"), (0x8d, "REVERSE INDEX"), (0x8d, "RI"),
    (0x8e, "SINGLE SHIFT TWO"), (0x8e, "SINGLE-SHIFT-2"), (0x8e, "SS2"),
    (0x8f, "SINGLE SHIFT THREE"), (0x8f, "SINGLE-SHIFT-3"), (0x8f, "SS3"),
    (0x90, "DEVICE CONTROL STRING"), (0x90, "DCS"), (0x91, "PRIVATE USE ONE"),
    (0x91, "PRIVATE USE-1"), (0x91, "PU1"), (0x92, "PRIVATE USE TWO"), (0x92, "PRIVATE USE-2"),
    (0x92, "PU2"), (0x93, "SET TRANSMIT STATE"), (0x93, "STS"), (0x94, "CANCEL CHARACTER"),
    (0x94, "CCH"), (0x95, "MESSAGE WAITING"), (0x95, "MW"), (0x96, "START OF GUARDED AREA"),
    (0x96, "START OF PROTECTED AREA"), (0x96, "SPA"), (0x97, "END OF GUARDED AREA"),
    (0x97, "END OF PROTECTED AREA"), (0x97, "EPA"), (0x98, "START OF STRING"), (0x98, "SOS"),
    (0x99, "SINGLE GRAPHIC CHARACTER INTRODUCER"), (0x99, "SGC"),
    (0x9a, "SINGLE CHARACTER INTRODUCER"), (0x9a, "SCI"), (0x9b, "CONTROL SEQUENCE INTRODUCER"),
    (0x9b, "CSI"), (0x9c, "STRING TERMINATOR"), (0x9c, "ST"), (0x9d, "OPERATING SYSTEM COMMAND"),
    (0x9d, "OSC"), (0x9e, "PRIVACY MESSAGE"), (0x9e, "PM"), (0x9f, "APPLICATION PROGRAM COMMAND"),
    (0x9f, "APC"), (0xa0, "NBSP"), (0xad, "SHY"), (0x1a2, "LATIN CAPITAL LETTER GHA"),
    (0x1a3, "LATIN SMALL LETTER GHA"), (0x34f, "CGJ"), (0x61c, "ALM"),
    (0x709, "SYRIAC SUBLINEAR COLON SKEWED LEFT"), (0xcde, "KANNADA LETTER LLLA"),
    (0xe9d, "LAO LETTER FO FON"), (0xe9f, "LAO LETTER FO FAY"), (0xea3, "LAO LETTER RO"),
    (0xea5, "LAO LETTER LO"), (0xfd0, "TIBETAN MARK BKA- SHOG GI MGO RGYAN"),
    (0x11ec, "HANGUL JONGSEONG YESIEUNG-KIYEOK"),
    (0x11ed, "HANGUL JONGSEONG YESIEUNG-SSANGKIYEOK"), (0x11ee, "HANGUL JONGSEONG SSANGYESIEUNG"),
    (0x11ef, "HANGUL JONGSEONG YESIEUNG-KHIEUKH"), (0x180b, "FVS1"), (0x180c, "FVS2"),
    (0x180d, "FVS3"), (0x180e, "MVS"), (0x180f, "FVS4"), (0x200b, "ZWSP"), (0x200c, "ZWNJ"),
    (0x200d, "ZWJ"), (0x200e, "LRM"), (0x200f, "RLM"), (0x202a, "LRE"), (0x202b, "RLE"),
    (0x202c, "PDF"), (0x202d, "LRO"), (0x202e, "RLO"), (0x202f, "NNBSP"), (0x205f, "MMSP"),
    (0x2060, "WJ"), (0x2066, "LRI"), (0x2067, "RLI"), (0x2068, "FSI"), (0x2069, "PDI"),
    (0x2118, "WEIERSTRASS ELLIPTIC FUNCTION"), (0x2448, "MICR ON US SYMBOL"),
    (0x2449, "MICR DASH SYMBOL"),
    (0x2b7a, "LEFTWARDS TRIANGLE-HEADED ARROW WITH DOUBLE VERTICAL STROKE"),
    (0x2b7c, "RIGHTWARDS TRIANGLE-HEADED ARROW WITH DOUBLE VERTICAL STROKE"),
    (0xa015, "YI SYLLABLE ITERATION MARK"), (0xaa6e, "MYANMAR LETTER KHAMTI LLA"),
    (0xfe18, "PRESENTATION FORM FOR VERTICAL RIGHT WHITE LENTICULAR BRACKET"),
    (0xfeff, "BYTE ORDER MARK"), (0xfeff, "BOM"), (0xfeff, "ZWNBSP"),
    (0x122d4, "CUNEIFORM SIGN NU11 TENU"),
    (0x122d5, "CUNEIFORM SIGN NU11 OVER NU11 BUR OVER BUR"),
    (0x16e56, "MEDEFAIDRIN CAPITAL LETTER H"), (0x16e57, "MEDEFAIDRIN CAPITAL LETTER NG"),
    (0x16e76, "MEDEFAIDRIN SMALL LETTER H"), (0x16e77, "MEDEFAIDRIN SMALL LETTER NG"),
    (0x1b001, "HENTAIGANA LETTER E-1"),
    (0x1d0c5, "BYZANTINE MUSICAL SYMBOL FTHORA SKLIRON CHROMA VASIS")]

/-- The character whose other name a text is. -/
def otherNamed? (name : List Char) : Option Nat :=
  (otherNames.find? fun e => e.2.toList == name).map (·.1)

/-- The variation selector of a short name: sixteen stand in the basic plane, the others in the
plane of marks without a shape. -/
def selector? (name : List Char) : Option Nat :=
  ((List.range 256).find? fun i => ("VS" ++ toString (i + 1)).toList == name).map fun i =>
    if i < 16 then 0xfe00 + i else 0xe0100 + (i - 16)

/-! ## The table -/

/-- Whether a name can have the character. -/
def isNameCharacter (c : Char) : Bool := ('A' ≤ c && c ≤ 'Z') || c.isDigit || c == ' ' || c == '-'

/-- A number at the front of a text: a small letter, and 26 for each plus sign before it. -/
def takeCount : List Char → Nat × List Char
  | '+' :: rest => let (n, rest) := takeCount rest; (n + 26, rest)
  | c :: rest => (c.toNat - 97, rest)
  | [] => (0, [])

/-- The name at the front of a line of the table, given the name before it, and the rest. -/
def takeName (previous line : List Char) : List Char × List Char :=
  let (front, line) := takeCount line
  let (back, line) := takeCount line
  (previous.take front ++ line.takeWhile isNameCharacter ++
      previous.drop (previous.length - back),
    line.dropWhile isNameCharacter)

/-- Look a name up in a line whose first character has the given code.  The answer is the code, or
else the last name of the line.  `fuel` is the length of the line. -/
def findInLine (name : List Char) : (fuel code : Nat) → (previous line : List Char) →
    Except Nat (List Char)
  | 0, _, previous, _ => .ok previous
  | _, _, previous, [] => .ok previous
  | fuel + 1, code, previous, line =>
      let (found, rest) := takeName previous line
      if found == name then .error code else findInLine name fuel (code + 1) found rest

/-- Look a name up in lines of the table, given the name before them. -/
def findInLines (name : List Char) : (previous : List Char) → List (List Char) → Option Nat
  | _, [] => none
  | previous, line :: rest =>
      let digits := line.takeWhile (· != ' ')
      let names := line.drop (digits.length + 1)
      match findInLine name names.length ((ofCapitalHex? digits).getD 0) previous names with
      | .error code => some code
      | .ok last => findInLines name last rest

/-- The lines of a text. -/
def linesOf (s : String) : List (List Char) :=
  s.toList.foldr (fun c lines => match c, lines with
    | '\n', lines => [] :: lines
    | c, line :: lines => (c :: line) :: lines
    | c, [] => [[c]]) [[]]

/-! ## Look-up -/

/-- What follows some first words in a name. -/
def behind? (start : String) (name : List Char) : Option (List Char) :=
  if start.toList.isPrefixOf name then some (name.drop start.toList.length) else none

/-- The code of the character of a name. -/
def named? (name : List Char) : Option Nat :=
  match behind? "HANGUL SYLLABLE " name, behind? "CJK UNIFIED IDEOGRAPH-" name with
  | some rest, _ => syllable? rest
  | none, some rest => ideograph? rest
  | none, none =>
      let name := name.map Char.toUpper
      (otherNamed? name).orElse fun _ => (selector? name).orElse fun _ =>
        findInLines name [] (linesOf nameTable)

end FormRules.Unicode
