/-
# Cutting — a text and one of its separators

A text is cut at the first separator, or at the last one:

    cutFirst    nothing before the cut is the separator
    cutLast     nothing behind the cut is the separator

Where a separator occurs the cut is determined by that alone (`cutFirst_eq_iff`, `cutLast_eq_iff`).
What stands behind the last separator is looked up in the same way (`afterLast?_append`).
-/
import FormRules.Text.Split

namespace FormRules.Text

variable {sep : Char} {s front back : List Char}

/-- The text before the last occurrence of a separator, and the text behind it. -/
def cutLast (sep : Char) (s : List Char) : List Char × List Char :=
  ((cutFirst sep s.reverse).2.reverse, (cutFirst sep s.reverse).1.reverse)

/-- Characters other than the separator are passed over, and the first one that is the separator
ends them. -/
theorem cutFirst_append (h : sep ∉ front) :
    cutFirst sep (front ++ sep :: back) = (front, back) := by
  have passed : ∀ c ∈ front, (c != sep) = true := by
    intro c hc
    rw [bne_iff_ne]
    rintro rfl
    exact h hc
  have taken : (sep :: back).takeWhile (· != sep) = [] := List.takeWhile_cons_of_neg (by simp)
  have left : (sep :: back).dropWhile (· != sep) = sep :: back :=
    List.dropWhile_cons_of_neg (by simp)
  rw [cutFirst, List.takeWhile_append_of_pos passed, List.dropWhile_append_of_pos passed, taken,
    left, List.append_nil]
  rfl

/-- A text is cut at the first separator. -/
theorem cutFirst_eq_iff (h : sep ∈ s) :
    cutFirst sep s = (front, back) ↔ sep ∉ front ∧ s = front ++ sep :: back := by
  constructor
  · intro cut
    obtain ⟨front', back', rfl, free⟩ := List.eq_append_cons_of_mem h
    rw [cutFirst_append free] at cut
    cases cut
    exact ⟨free, rfl⟩
  · rintro ⟨free, rfl⟩
    exact cutFirst_append free

/-- A text is cut at the last separator. -/
theorem cutLast_eq_iff (h : sep ∈ s) :
    cutLast sep s = (front, back) ↔ sep ∉ back ∧ s = front ++ sep :: back := by
  have reversed : sep ∈ s.reverse := List.mem_reverse.mpr h
  have mirrored : cutLast sep s = (front, back) ↔
      cutFirst sep s.reverse = (back.reverse, front.reverse) := by
    rw [cutLast, Prod.ext_iff, Prod.ext_iff, List.reverse_eq_iff, List.reverse_eq_iff, and_comm]
  rw [mirrored, cutFirst_eq_iff reversed, List.mem_reverse, List.reverse_eq_iff]
  simp

/-- There is only one last separator. -/
theorem eq_of_append_eq {front' back' : List Char} (h : sep ∉ back) (h' : sep ∉ back')
    (same : front ++ sep :: back = front' ++ sep :: back') : back = back' := by
  have occurs : sep ∈ front ++ sep :: back := List.mem_append_right _ List.mem_cons_self
  have cut := (cutLast_eq_iff occurs).mpr ⟨h, rfl⟩
  have cut' := (cutLast_eq_iff occurs).mpr ⟨h', same⟩
  exact congrArg Prod.snd (cut.symm.trans cut')

/-- The text behind the last separator. -/
theorem afterLast?_append (h : sep ∉ back) : afterLast? sep (front ++ sep :: back) = some back := by
  have occurs : sep ∈ front ++ sep :: back := List.mem_append_right _ List.mem_cons_self
  have cut : cutLast sep (front ++ sep :: back) = (front, back) :=
    (cutLast_eq_iff occurs).mpr ⟨h, rfl⟩
  rw [afterLast?, if_pos (List.contains_iff_mem.mpr occurs)]
  exact congrArg some (congrArg Prod.snd cut)

theorem afterLast?_of_not_mem (h : sep ∉ s) : afterLast? sep s = none :=
  if_neg fun occurs => h (List.contains_iff_mem.mp occurs)

end FormRules.Text
