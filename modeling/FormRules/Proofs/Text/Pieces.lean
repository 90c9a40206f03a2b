/-
# Pieces — cutting a text is the inverse of joining pieces

The pieces of a text are the only texts that are free of the separator and give the text back when
they are joined.  `split_eq_iff` says this in one line, and whatever is read by cutting a text at a
separator is compared with what is printed by joining through it alone.
-/
import FormRules.Text.Split

namespace FormRules.Text

variable {sep : Char}

theorem split_eq_splitOn (sep : Char) (s : List Char) : split sep s = s.splitOn sep := by
  induction s with
  | nil => rfl
  | cons c rest ih =>
      rw [List.splitOn_cons_eq_if_modifyHead, split, ih]
      by_cases h : c = sep
      · simp [h]
      · cases hpieces : rest.splitOn sep with
        | nil => exact absurd hpieces (List.splitOn_ne_nil _ _)
        | cons piece pieces => simp [h]

theorem join_eq_intercalate (sep : Char) (pieces : List (List Char)) :
    join sep pieces = [sep].intercalate pieces := by
  induction pieces with
  | nil => rfl
  | cons piece rest ih =>
      cases rest with
      | nil => simp [join]
      | cons next more => simp [join, ih]

theorem join_cons (sep : Char) (piece : List Char) (pieces : List (List Char)) :
    join sep (piece :: pieces) = piece ++ (pieces.map (sep :: ·)).flatten := by
  induction pieces generalizing piece with
  | nil => simp [join]
  | cons next more ih =>
      have joined : join sep (piece :: next :: more) =
          piece ++ sep :: join sep (next :: more) := rfl
      simp [joined, ih]

theorem not_mem_of_mem_split {s piece : List Char} (h : piece ∈ split sep s) : sep ∉ piece := by
  induction s generalizing piece with
  | nil =>
      obtain rfl := List.mem_singleton.mp h
      exact List.not_mem_nil
  | cons c rest ih =>
      cases hrest : split sep rest with
      | nil => exact absurd hrest (split_ne_nil sep rest)
      | cons first others =>
          rw [hrest] at ih
          rw [split, hrest] at h
          by_cases hc : c = sep
          · rw [if_pos hc] at h
            rcases List.mem_cons.mp h with rfl | h
            · exact List.not_mem_nil
            · exact ih h
          · rw [if_neg hc] at h
            rcases List.mem_cons.mp h with rfl | h
            · exact List.not_mem_cons_of_ne_of_not_mem (Ne.symm hc) (ih List.mem_cons_self)
            · exact ih (List.mem_cons_of_mem _ h)

/-- **Cutting is the inverse of joining**, for pieces that are free of the separator. -/
theorem split_eq_iff {s : List Char} {pieces : List (List Char)} :
    split sep s = pieces ↔ pieces ≠ [] ∧ (∀ piece ∈ pieces, sep ∉ piece) ∧ join sep pieces = s := by
  constructor
  · rintro rfl
    exact ⟨split_ne_nil sep s, fun _ => not_mem_of_mem_split, join_split sep s⟩
  · rintro ⟨hne, hfree, rfl⟩
    rw [split_eq_splitOn, join_eq_intercalate]
    exact List.splitOn_intercalate sep hfree hne

/-- A character other than the separator is in joined pieces if it is in one of them. -/
theorem mem_join_iff {c : Char} (hc : c ≠ sep) {pieces : List (List Char)} :
    c ∈ join sep pieces ↔ ∃ piece ∈ pieces, c ∈ piece := by
  cases pieces with
  | nil => simp [join]
  | cons piece rest =>
      have behind : c ∈ (rest.map (sep :: ·)).flatten ↔ ∃ piece ∈ rest, c ∈ piece := by
        rw [← List.flatMap_def, List.mem_flatMap]
        simp [hc]
      simp [join_cons, behind]

/-- A piece holds only characters of the text. -/
theorem mem_of_mem_split {s piece : List Char} (h : piece ∈ split sep s) {c : Char}
    (hc : c ∈ piece) : c ∈ s := by
  have apart : c ≠ sep := fun equal => not_mem_of_mem_split h (equal ▸ hc)
  rw [← join_split sep s]
  exact (mem_join_iff apart).mpr ⟨piece, h, hc⟩

end FormRules.Text
