import FormRules.Unicode.CaseTable
/-!
# Upper and lower case of a text

Case mapping works character by character, except that a capital sigma at the end of a word
becomes the final form.  `foldChar` is the first character of the lower-case form, the key under
which two characters are the same when case is ignored.
-/
namespace FormRules.Unicode

/-- Where a stretch moves a code point, if the point lies on it. -/
def CaseStretch.move? (s : CaseStretch) (n : Nat) : Option Nat :=
  if s.first ≤ n ∧ n ≤ s.last ∧ (n - s.first) % s.step = 0 then some (n + s.offset).toNat
  else none

/-- A case mapping: `ascii` below U+0080, the tables from there on, otherwise the character. -/
def mapCase (ascii : Char → Char) (specials : List (Nat × List Nat))
    (stretches : List CaseStretch) (c : Char) : List Char :=
  if c.toNat < 128 then [ascii c]
  else match specials.lookup c.toNat with
    | some ns => ns.map Char.ofNat
    | none => match stretches.findSome? (·.move? c.toNat) with
      | some n => [Char.ofNat n]
      | none => [c]

/-- The lower-case form of one character, outside any word. -/
def lowerChar : Char → List Char := mapCase Char.toLower lowerSpecials lowerStretches

/-- The upper-case form of one character. -/
def upperChar : Char → List Char := mapCase Char.toUpper upperSpecials upperStretches

/-- The character that stands for `c` when case is ignored. -/
def foldChar (c : Char) : Char := (lowerChar c).headD c

/-- The first character of the upper-case form. -/
def raiseChar (c : Char) : Char := (upperChar c).headD c

/-- The code points from U+0080 on whose lower-case form begins with the code point `n`. -/
def unfolded (n : Nat) : List Nat :=
  (lowerStretches.filterMap fun s =>
      let m := ((n : Int) - s.offset).toNat
      if s.move? m = some n then some m else none) ++
    lowerSpecials.filterMap fun e => if e.2.head? = some n then some e.1 else none

/-- Whether either case mapping moves the character. -/
def hasCase (c : Char) : Bool := foldChar c != c || raiseChar c != c

/-- A character with case that ends the search around a sigma. -/
def isCased : Char → Bool := hasProperty Char.isAlpha casedRuns

/-- A character that the search around a sigma passes over. -/
def isCaseIgnorable : Char → Bool :=
  hasProperty (fun c => c == '\'' || c == '.' || c == ':' || c == '^' || c.toNat == 96)
    caseIgnorableRuns

/-- A sigma is final when a cased character precedes it and none follows it; `before` is read
backwards. -/
def isFinalSigma (before after : List Char) : Bool :=
  ((before.dropWhile isCaseIgnorable).head?.any isCased) &&
    !((after.dropWhile isCaseIgnorable).head?.any isCased)

/-- Lower case of `s`, which follows the text whose reverse is `before`. -/
def lowerAfter (before : List Char) : List Char → List Char
  | [] => []
  | c :: rest =>
      (if c = 'Σ' then [if isFinalSigma before rest then 'ς' else 'σ'] else lowerChar c)
        ++ lowerAfter (c :: before) rest

/-- The text in lower case. -/
def lower (s : List Char) : List Char := lowerAfter [] s

/-- The text in upper case. -/
def upper (s : List Char) : List Char := s.flatMap upperChar

/-- An ASCII character other than sigma is mapped by itself. -/
theorem lowerChar_of_ascii {c : Char} (h : c.toNat < 128) : lowerChar c = [c.toLower] := by
  simp [lowerChar, mapCase, h]

end FormRules.Unicode
