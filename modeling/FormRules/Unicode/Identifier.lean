import FormRules.Unicode.Word
/-!
# Identifiers

An identifier starts with a letter or an underscore and continues with letters, decimal digits,
marks and connectors.  The tables list where the standard's classes differ from letters and from
alphanumeric characters.
-/
namespace FormRules.Unicode

/-- Where the class of first characters differs from the letters. -/
def identifierStartRuns : List Nat :=
  [762, 1, 2744, 1, 127, 1, 2106, 3, 404, 2, 2193, 1, 21, 1, 49, 35, 2, 4, 3238, 1, 471, 1, 25, 9,
   14, 3, 30379, 10, 21870, 6, 406, 2, 116, 1, 1, 1, 1, 1, 1, 1, 1, 1, 1, 1, 1, 1, 1, 1, 287, 2,
   416, 53, 460, 1, 8, 1, 134, 5, 8234, 111]

/-- Where the class of later characters differs from the letters and numbers. -/
def identifierContinueRuns : List Nat :=
  [50, 2, 3, 1, 1, 1, 2, 3, 577, 112, 10, 1, 12, 1, 251, 5, 265, 45, 1, 1, 1, 2, 1, 2, 1, 1, 72,
   11, 48, 21, 16, 1, 101, 7, 2, 6, 2, 2, 1, 4, 35, 1, 30, 27, 91, 11, 58, 9, 9, 1, 24, 4, 1, 9,
   1, 3, 1, 5, 43, 3, 60, 8, 42, 24, 1, 33, 54, 3, 1, 18, 1, 7, 10, 2, 29, 3, 56, 1, 1, 7, 2, 2,
   2, 3, 9, 1, 10, 2, 16, 6, 4, 1, 2, 3, 56, 1, 1, 5, 4, 2, 2, 3, 3, 1, 30, 2, 3, 1, 11, 3, 56, 1,
   1, 8, 1, 3, 1, 3, 20, 2, 22, 6, 1, 3, 56, 1, 1, 7, 2, 2, 2, 3, 7, 3, 10, 2, 14, 6, 10, 1, 59,
   5, 3, 3, 1, 4, 9, 1, 24, 3, 13, 5, 55, 1, 1, 7, 1, 3, 1, 4, 7, 2, 11, 2, 20, 7, 2, 3, 56, 1, 1,
   7, 1, 3, 1, 4, 7, 2, 11, 2, 28, 4, 55, 2, 1, 7, 1, 3, 1, 4, 9, 8, 3, 2, 12, 9, 8, 3, 70, 1, 4,
   6, 1, 1, 1, 8, 18, 2, 61, 1, 2, 7, 12, 8, 98, 1, 2, 9, 11, 6, 74, 2, 16, 10, 1, 1, 1, 1, 1, 1,
   4, 2, 49, 20, 1, 2, 5, 11, 1, 36, 9, 1, 100, 20, 23, 4, 4, 3, 1, 3, 2, 7, 3, 4, 13, 12, 1, 1,
   10, 4, 703, 3, 18, 11, 917, 4, 28, 3, 29, 2, 30, 2, 64, 32, 9, 1, 18, 10, 17, 3, 1, 1, 117, 2,
   34, 1, 118, 12, 4, 12, 219, 5, 57, 10, 1, 29, 2, 1, 48, 14, 1, 16, 49, 5, 47, 17, 38, 9, 12, 3,
   30, 13, 56, 14, 48, 20, 152, 3, 1, 21, 4, 1, 6, 1, 2, 3, 198, 64, 575, 2, 19, 1, 27, 1, 3, 6,
   6, 10, 70, 13, 4, 1, 3, 12, 39, 1, 21, 1, 33, 16, 41, 1, 726, 60, 78, 22, 630, 30, 1371, 3, 11,
   1, 129, 1, 96, 32, 47, 1, 506, 6, 105, 2, 247, 4, 138, 10, 30, 8, 1, 15, 32, 10, 39, 15, 29615,
   1, 4, 10, 32, 2, 80, 2, 272, 1, 3, 1, 4, 1, 23, 5, 4, 1, 3, 6, 74, 2, 50, 18, 26, 18, 13, 1,
   38, 8, 25, 13, 44, 4, 47, 14, 36, 1, 67, 14, 12, 1, 8, 2, 45, 3, 50, 1, 1, 3, 2, 2, 5, 2, 1, 1,
   41, 5, 5, 2, 236, 8, 1, 2, 20272, 1, 319, 6, 406, 2, 4, 16, 16, 16, 3, 2, 24, 3, 32, 1, 1, 1,
   1, 1, 1, 1, 1, 1, 1, 1, 1, 1, 1, 1, 192, 1, 455, 45, 65, 4, 17, 2, 113, 1, 226, 28, 36, 4, 82,
   5, 1245, 8, 25, 7, 39, 9, 75, 5, 22, 6, 160, 2, 2, 16, 2, 46, 1, 3, 1, 2, 5, 4, 40, 3, 4, 10,
   52, 2, 30, 3, 69, 2, 4, 5, 104, 8, 24, 8, 41, 7, 330, 6, 36, 4, 312, 31, 44, 2, 112, 10, 31,
   15, 45, 4, 63, 7, 52, 3, 53, 15, 11, 20, 10, 1, 2, 2, 10, 4, 45, 11, 7, 1, 61, 3, 36, 14, 16,
   2, 44, 1, 12, 3, 48, 14, 8, 4, 1, 2, 17, 20, 55, 12, 6, 1, 160, 12, 21, 4, 55, 2, 1, 7, 2, 2,
   2, 3, 9, 1, 10, 2, 2, 7, 3, 5, 192, 18, 23, 1, 81, 20, 235, 7, 2, 9, 27, 2, 82, 17, 106, 13,
   101, 15, 14, 2, 240, 15, 175, 9, 61, 6, 1, 2, 2, 4, 1, 1, 1, 2, 141, 7, 2, 7, 3, 1, 28, 10, 40,
   7, 1, 4, 8, 1, 9, 11, 46, 16, 405, 8, 1, 8, 26, 19, 37, 22, 1, 14, 122, 6, 3, 1, 1, 2, 1, 7, 1,
   1, 66, 5, 1, 2, 1, 5, 347, 4, 201, 21, 19227, 5, 59, 7, 36, 7, 798, 23, 184, 1, 1, 55, 7, 4,
   81, 1, 11, 2, 19627, 2, 4705, 46, 2, 23, 542, 5, 3, 6, 8, 8, 2, 7, 30, 4, 148, 3, 155, 20, 108,
   25, 1671, 55, 4, 50, 8, 1, 14, 1, 22, 5, 1, 15, 1360, 7, 1, 17, 2, 7, 1, 2, 1, 5, 261, 7, 375,
   1, 61, 4, 1495, 16, 109, 7, 806, 59, 1, 3, 1, 4, 76, 45, 1, 15, 962, 13, 790515, 240]

/-- A character that may open an identifier. -/
def isIdentifierStart (c : Char) : Bool :=
  isLetter c != hasProperty (· == '_') identifierStartRuns c

/-- A character that may continue an identifier. -/
def isIdentifierContinue (c : Char) : Bool :=
  isAlphanumeric c != hasProperty (· == '_') identifierContinueRuns c

/-- A non-empty text whose first character opens and whose later ones continue an identifier. -/
def isIdentifier : List Char → Bool
  | [] => false
  | c :: rest => isIdentifierStart c && rest.all isIdentifierContinue

end FormRules.Unicode
