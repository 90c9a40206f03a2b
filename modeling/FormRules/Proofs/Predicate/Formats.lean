/-
# Formats — which texts are whole numbers

The format of whole numbers admits a sign, and then either a zero or digits without a leading one.
Each such text is made of plain digits with at most a sign in front (`isPlain_of_intPattern`), so
it is read as a number unless there are too many digits.
-/
import FormRules.Proofs.Number.Numeral
import FormRules.Proofs.Pattern.Language

namespace FormRules.Predicate

open Pattern

theorem isPlain_intPattern : intPattern.IsPlain := by
  simp [intPattern, sign, optional, oneOf, literal, many, Pattern.IsPlain]

/-- A test for a range of plain digits accepts such digits only. -/
theorem isDigit_of_accepts {low high c : Char} (hlow : '0'.toNat ≤ low.toNat)
    (hhigh : high.toNat ≤ '9'.toNat)
    (h : (CharTest.set false [span low high] .exact).accepts c = true) : c.isDigit = true := by
  have small : high.toNat < 0xd800 := Nat.lt_of_le_of_lt hhigh (by decide)
  have held : (span low high).holdsExactly c = true := by simpa [CharTest.accepts] using h
  have range := (holdsExactly_span small c).mp held
  simp only [Char.isDigit, Bool.and_eq_true, decide_eq_true_eq, ge_iff_le, UInt32.le_iff_toNat_le]
  exact ⟨hlow.trans range.1, range.2.trans hhigh⟩

theorem mem_language_sign {w : List Char} (h : w ∈ sign.language) :
    w = [] ∨ w = ['-'] ∨ w = ['+'] := by
  rw [sign, language_optional, Language.mem_add, Language.mem_one] at h
  rcases h with rfl | ⟨c, accepted, rfl⟩
  · exact .inl rfl
  · have held : c ∈ ['-', '+'] := (accepts_one_of _ (by simp) c).mp accepted
    simpa using held

/-- **A whole number** is made of plain digits with at most a sign in front. -/
theorem isPlain_of_intPattern {s : List Char} (h : intPattern.fullMatches s = true) :
    Numeral.IsPlain s := by
  obtain ⟨w, hw, digits, hdigits, rfl⟩ := (fullMatches_iff isPlain_intPattern s).mp h
  refine ⟨w, digits, rfl, mem_language_sign hw, ?_⟩
  rcases hdigits with zero | ⟨_, ⟨first, accepted, rfl⟩, rest, hrest, rfl⟩
  · rw [language_literal (by decide)] at zero
    obtain rfl := zero
    exact ⟨List.cons_ne_nil _ _, by simp⟩
  · rw [language_many] at hrest
    have later := mem_kstar_char_iff.mp hrest
    refine ⟨List.cons_ne_nil _ _, List.forall_mem_cons.mpr ⟨?_, fun c hc => ?_⟩⟩
    · exact isDigit_of_accepts (by decide) (by decide) accepted
    · exact isDigit_of_accepts (by decide) (by decide) (later c hc)

end FormRules.Predicate
