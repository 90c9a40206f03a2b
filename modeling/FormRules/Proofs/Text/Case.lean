/-
# Case — plain texts in lower case

In general the lower case of a text is more than that of its characters: a letter may become
several ones, and a sigma looks at the letters around it.  Among the plain characters nothing of
that happens.  A plain text is lowered one character at a time (`lower_of_ascii`), a letter becomes a
letter, and every other character is left alone and is not what a letter becomes.
-/
import FormRules.Unicode.Case

namespace FormRules.Unicode

/-! ## Characters -/

theorem isAlpha_eq (c : Char) : c.isAlpha = (c.isUpper || c.isLower) := rfl

theorem toLower_of_not_isUpper {c : Char} (h : c.isUpper = false) : c.toLower = c := by
  have notUpper : ¬ (c.val ≥ 'A'.val ∧ c.val ≤ 'Z'.val) := of_decide_eq_false h
  exact dif_neg notUpper

/-- What is small in lower case is a letter. -/
theorem isAlpha_of_isLower_toLower {c : Char} (h : c.toLower.isLower = true) :
    c.isAlpha = true := by
  rw [isAlpha_eq, Bool.or_eq_true]
  cases upper : c.isUpper with
  | true => exact .inl rfl
  | false => exact .inr (toLower_of_not_isUpper upper ▸ h)

theorem toNat_of_isUpper {c : Char} (h : c.isUpper = true) : 65 ≤ c.toNat ∧ c.toNat ≤ 90 := by
  have range : c.val ≥ 'A'.val ∧ c.val ≤ 'Z'.val := of_decide_eq_true h
  simpa [UInt32.le_iff_toNat_le] using range

theorem toNat_of_isLower {c : Char} (h : c.isLower = true) : 97 ≤ c.toNat ∧ c.toNat ≤ 122 := by
  have range : (c.val ≥ 'a'.val && c.val ≤ 'z'.val) = true := h
  simpa [UInt32.le_iff_toNat_le] using range

theorem toNat_of_isAlpha {c : Char} (h : c.isAlpha = true) : 65 ≤ c.toNat ∧ c.toNat ≤ 122 := by
  rw [isAlpha_eq, Bool.or_eq_true] at h
  rcases h with upper | lower
  · have range := toNat_of_isUpper upper
    omega
  · have range := toNat_of_isLower lower
    omega

/-- A capital letter becomes a small one. -/
theorem isLower_toLower_of_isUpper {c : Char} (h : c.isUpper = true) : c.toLower.isLower = true := by
  have each : ∀ n < 26, (Char.ofNat (65 + n)).toLower.isLower = true := by decide
  have range := toNat_of_isUpper h
  have lowered := each (c.toNat - 65) (by omega)
  rwa [Nat.add_sub_cancel' range.1, Char.ofNat_toNat] at lowered

/-- No letter becomes a character that is none. -/
theorem toLower_eq_iff {c d : Char} (hd : d.isAlpha = false) : c.toLower = d ↔ c = d := by
  have mark : d.isUpper = false ∧ d.isLower = false := by
    rwa [isAlpha_eq, Bool.or_eq_false_iff] at hd
  constructor
  · rintro rfl
    cases upper : c.isUpper with
    | true => exact Bool.noConfusion (mark.2.symm.trans (isLower_toLower_of_isUpper upper))
    | false => exact (toLower_of_not_isUpper upper).symm
  · rintro rfl
    exact toLower_of_not_isUpper mark.1

/-! ## Texts -/

theorem lowerAfter_of_ascii {s : List Char} (h : ∀ c ∈ s, c.toNat < 128) (before : List Char) :
    lowerAfter before s = s.map Char.toLower := by
  induction s generalizing before with
  | nil => rfl
  | cons c rest ih =>
      obtain ⟨plain, later⟩ := List.forall_mem_cons.mp h
      have noSigma : c ≠ 'Σ' := by
        rintro rfl
        exact absurd plain (by decide)
      rw [lowerAfter, if_neg noSigma, lowerChar_of_ascii plain, ih later]
      rfl

/-- **A plain text** is lowered one character at a time. -/
theorem lower_of_ascii {s : List Char} (h : ∀ c ∈ s, c.toNat < 128) :
    lower s = s.map Char.toLower :=
  lowerAfter_of_ascii h []

end FormRules.Unicode
