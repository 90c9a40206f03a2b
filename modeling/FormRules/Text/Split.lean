/-!
# Cutting and joining texts

A text is cut at every occurrence of a separator, so that joining the pieces gives the text back
and no piece holds the separator.
-/
namespace FormRules.Text

/-- The pieces of a text between separators; there is at least one. -/
def split (sep : Char) : List Char → List (List Char)
  | [] => [[]]
  | c :: rest =>
      if c = sep then [] :: split sep rest
      else match split sep rest with
        | [] => [[c]]
        | piece :: pieces => (c :: piece) :: pieces

/-- Pieces with a separator between them. -/
def join (sep : Char) : List (List Char) → List Char
  | [] => []
  | [piece] => piece
  | piece :: pieces => piece ++ sep :: join sep pieces

theorem split_ne_nil (sep : Char) (s : List Char) : split sep s ≠ [] := by
  cases s with
  | nil => simp [split]
  | cons c rest =>
      simp only [split]
      split
      · simp
      · split <;> simp

/-- Nothing is lost by cutting. -/
theorem join_split (sep : Char) (s : List Char) : join sep (split sep s) = s := by
  induction s with
  | nil => rfl
  | cons c rest ih =>
      simp only [split]
      split
      · rename_i h
        subst h
        cases hs : split c rest with
        | nil => exact absurd hs (split_ne_nil c rest)
        | cons piece pieces => rw [hs] at ih; simp [join, ih]
      · cases hs : split sep rest with
        | nil => exact absurd hs (split_ne_nil sep rest)
        | cons piece pieces =>
            rw [hs] at ih
            cases pieces with
            | nil => simp_all [join]
            | cons next more => simp_all [join]

/-- Whether a text occurs in another one. -/
def occursIn {α : Type} [BEq α] (part : List α) : List α → Bool
  | [] => part.isEmpty
  | c :: rest => part.isPrefixOf (c :: rest) || occursIn part rest

/-- The text before the first occurrence of a separator, and the text behind it. -/
def cutFirst (sep : Char) (s : List Char) : List Char × List Char :=
  (s.takeWhile (· != sep), (s.dropWhile (· != sep)).drop 1)

/-- The text behind the last occurrence of a separator, if there is one. -/
def afterLast? (sep : Char) (s : List Char) : Option (List Char) :=
  if s.contains sep then some (s.reverse.takeWhile (· != sep)).reverse else none

end FormRules.Text
