/-
# Texts — which values are written as nothing

Only the empty text is: every other value is written with at least one character.

    nothing, flags               their words
    numbers, dates, moments      their digits and marks
    bytes                        their quotes
    sequences, mappings, sets    their brackets
    a node of a ring             the brackets of the list or the mapping that it is

What stands for a node inside of a ring is no value by itself and has no text of its own, and a
place that the ring does not have is written as nothing; a value is complete if it is neither.
-/
import FormRules.Value.Text

namespace FormRules

namespace Value

/-- A value that can be written by itself: a node of a ring comes with the ring. -/
def IsComplete : Value → Prop
  | .ring nodes place => ∃ node ∈ nodes[place]?, (∃ xs, node = .list xs) ∨ ∃ es, node = .map es
  | .again _ => False
  | _ => True

theorem append_ne_empty {s : String} (h : s ≠ "") (t : String) : s ++ t ≠ "" :=
  fun empty => h (String.append_eq_empty_iff.mp empty).1

theorem integerText_ne_empty (n : Int) : integerText n ≠ "" := by
  unfold integerText
  split <;> simp [String.append_eq_empty_iff, String.ofList_eq_empty_iff, Nat.toDigits_ne_nil]

theorem float_text_ne_nil (x : Binary64) : x.text ≠ [] := by
  have positional (digits : List Char) (point : Int) :
      Binary64.positionalText digits point ≠ [] := by
    unfold Binary64.positionalText
    split <;> simp
  have scientific (digits : List Char) (point : Int) :
      Binary64.scientificText digits point ≠ [] := by
    simp [Binary64.scientificText]
  cases x with
  | nan => simp [Binary64.text]
  | infinite s => simp [Binary64.text]
  | finite s m e =>
      unfold Binary64.text
      refine List.append_ne_nil_of_right_ne_nil _ ?_
      split
      · simp
      · dsimp only
        split
        · exact positional _ _
        · exact scientific _ _

/-- Every value but a node of a ring is written with at least one character. -/
theorem shownWithin_ne_empty (around : Nat → String) {v : Value}
    (noRing : ∀ nodes place, v ≠ .ring nodes place) (noNode : ∀ place, v ≠ .again place) :
    shownWithin v around ≠ "" := by
  cases v with
  | ring nodes place => exact absurd rfl (noRing nodes place)
  | again place => exact absurd rfl (noNode place)
  | null => exact (by decide : "None" ≠ "")
  | bool b =>
      cases b with
      | false => exact (by decide : "False" ≠ "")
      | true => exact (by decide : "True" ≠ "")
  | int n => exact integerText_ne_empty n
  | float x => exact mt String.ofList_eq_empty_iff.mp (float_text_ne_nil x)
  | nan => exact (by decide : "nan" ≠ "")
  | str s => exact mt String.ofList_eq_empty_iff.mp (List.cons_ne_nil _ _)
  | bytes bs => exact mt String.ofList_eq_empty_iff.mp (List.cons_ne_nil _ _)
  | list xs => exact append_ne_empty (append_ne_empty (by decide) _) _
  | tuple xs =>
      rcases xs with _ | ⟨x, _ | ⟨y, more⟩⟩ <;>
        exact append_ne_empty (append_ne_empty (by decide) _) _
  | map es => exact append_ne_empty (append_ne_empty (by decide) _) _
  | set xs =>
      cases xs with
      | nil => exact (by decide : "set()" ≠ "")
      | cons => exact append_ne_empty (append_ne_empty (by decide) _) _
  | file =>
      repeat refine append_ne_empty ?_ _
      decide
  | date d =>
      repeat refine append_ne_empty ?_ _
      decide
  | moment m => exact append_ne_empty (append_ne_empty (append_ne_empty (by decide) _) _) _

theorem date_text_ne_empty (d : Date) : d.text ≠ "" := by
  intro empty
  have hyphen := (String.append_eq_empty_iff.mp (String.append_eq_empty_iff.mp empty).1).2
  exact absurd hyphen (by decide)

theorem shownNodes_eq_map (nodes : List Value) : shownNodes nodes = nodes.map shownWithin := by
  induction nodes with
  | nil => rfl
  | cons v rest ih => exact congrArg (shownWithin v :: ·) ih

/-- Only the empty text is written as nothing. -/
theorem text_ne_empty {v : Value} (complete : v.IsComplete) (noText : v.isStr = false) :
    v.text ≠ "" := by
  cases v with
  | str s => cases noText
  | date d => exact date_text_ne_empty d
  | moment m =>
      iterate 8 refine append_ne_empty ?_ _
      exact date_text_ne_empty m.date
  | again place => exact complete.elim
  | ring nodes place =>
      obtain ⟨node, found, kind⟩ := complete
      have written : text (.ring nodes place) = shownWithin node
          (ringText nodes (shownNodes nodes) nodes.length [place]) := by
        show ringText nodes (shownNodes nodes) (nodes.length + 1) [] place = _
        have noted : (shownNodes nodes)[place]? = some (shownWithin node) := by
          rw [shownNodes_eq_map, List.getElem?_map, found, Option.map_some]
        simp [ringText, noted]
      rw [written]
      rcases kind with ⟨xs, rfl⟩ | ⟨es, rfl⟩ <;> exact shownWithin_ne_empty _ nofun nofun
  | _ => exact shownWithin_ne_empty _ nofun nofun

end Value

end FormRules
