/-
# Sets — the characters and runs of characters that formats ask for

A format names its characters by ranges and single ones, compared by code point.  As classes these
are the plain ones, whose members lie in ASCII:

    digits          the plain digits
    lowerLetters    the small letters
    upperLetters    the capital letters
    one c           `c` alone

A run of such characters is a repetition of a set, and its texts are those of sufficient length
all of whose characters are in the set (`mem_loop_char_iff`).
-/
import FormRules.Proofs.Pattern.Language

namespace FormRules.Pattern

open scoped Computability

/-! ## Runs of characters -/

theorem mem_pow_char_iff {test : CharTest} {n : Nat} {w : List Char} :
    w ∈ (char test).language ^ n ↔ w.length = n ∧ ∀ c ∈ w, test.accepts c = true := by
  induction n generalizing w with
  | zero =>
      rw [pow_zero, Language.mem_one]
      constructor
      · rintro rfl
        exact ⟨rfl, nofun⟩
      · intro h
        exact List.eq_nil_of_length_eq_zero h.1
  | succ n ih =>
      rw [pow_succ', Language.mem_mul]
      constructor
      · rintro ⟨_, ⟨c, accepted, rfl⟩, rest, hrest, rfl⟩
        obtain ⟨length, later⟩ := ih.mp hrest
        exact ⟨congrArg Nat.succ length, List.forall_mem_cons.mpr ⟨accepted, later⟩⟩
      · rintro ⟨length, accepted⟩
        cases w with
        | nil => cases length
        | cons c rest =>
            obtain ⟨first, later⟩ := List.forall_mem_cons.mp accepted
            exact ⟨[c], ⟨c, first, rfl⟩, rest, ih.mpr ⟨Nat.succ.inj length, later⟩, rfl⟩

/-- At least `least` characters that pass a test. -/
theorem mem_loop_char_iff {test : CharTest} {least : Nat} {w : List Char} :
    w ∈ (loop least none (char test)).language ↔
      least ≤ w.length ∧ ∀ c ∈ w, test.accepts c = true := by
  show w ∈ (char test).language ^ least * further none (char test).language ↔ _
  rw [further_none, Language.mem_mul]
  constructor
  · rintro ⟨u, hu, v, hv, rfl⟩
    obtain ⟨length, first⟩ := mem_pow_char_iff.mp hu
    refine ⟨?_, List.forall_mem_append.mpr ⟨first, mem_kstar_char_iff.mp hv⟩⟩
    rw [List.length_append, length]
    exact Nat.le_add_right _ _
  · rintro ⟨long, accepted⟩
    refine ⟨w.take least, ?_, w.drop least, ?_, List.take_append_drop least w⟩
    · exact mem_pow_char_iff.mpr ⟨List.length_take_of_le long,
        fun c hc => accepted c (List.mem_of_mem_take hc)⟩
    · exact mem_kstar_char_iff.mpr fun c hc => accepted c (List.mem_of_mem_drop hc)

end FormRules.Pattern

namespace FormRules.Predicate

open Pattern

/-! ## Classes -/

@[simp] theorem holdsExactly_digits (c : Char) : digits.holdsExactly c = c.isDigit := by
  rw [Bool.eq_iff_iff, digits, holdsExactly_span (by decide)]
  simp [Char.isDigit, UInt32.le_iff_toNat_le]

@[simp] theorem holdsExactly_lowerLetters (c : Char) : lowerLetters.holdsExactly c = c.isLower := by
  have lower : c.isLower = (c.val ≥ 'a'.val && c.val ≤ 'z'.val) := rfl
  rw [Bool.eq_iff_iff, lowerLetters, holdsExactly_span (by decide)]
  simp [lower, UInt32.le_iff_toNat_le]

@[simp] theorem holdsExactly_upperLetters (c : Char) : upperLetters.holdsExactly c = c.isUpper := by
  have upper : c.isUpper = decide (c.val ≥ 'A'.val ∧ c.val ≤ 'Z'.val) := rfl
  rw [Bool.eq_iff_iff, upperLetters, holdsExactly_span (by decide)]
  simp [upper, UInt32.le_iff_toNat_le]

theorem holdsExactly_one {d : Char} (hd : d.toNat < 0xd800) (c : Char) :
    (one d).holdsExactly c = (c == d) := by
  rw [Bool.eq_iff_iff, beq_iff_eq]
  exact beq_iff_eq.trans (codeOf_eq_iff hd)

section Sets

variable {items : List Item} {P : Char → Prop} {w : List Char}

/-- Exactly one character of a set. -/
theorem mem_oneOf_iff (held : ∀ c, items.any (Item.holdsExactly c) = true ↔ P c) :
    w ∈ (oneOf items).language ↔ ∃ c, P c ∧ w = [c] := by
  show (∃ c, (CharTest.set false items .exact).accepts c = true ∧ w = [c]) ↔ _
  simp only [CharTest.accepts, Bool.bne_false, held]

/-- A run of characters of a set. -/
theorem mem_loop_oneOf_iff (held : ∀ c, items.any (Item.holdsExactly c) = true ↔ P c)
    {least : Nat} :
    w ∈ (loop least none (oneOf items)).language ↔ least ≤ w.length ∧ ∀ c ∈ w, P c := by
  rw [oneOf, mem_loop_char_iff]
  simp only [CharTest.accepts, Bool.bne_false, held]

theorem mem_oneOrMore_oneOf_iff (held : ∀ c, items.any (Item.holdsExactly c) = true ↔ P c) :
    w ∈ (oneOrMore (oneOf items)).language ↔ w ≠ [] ∧ ∀ c ∈ w, P c := by
  rw [oneOrMore, mem_loop_oneOf_iff held, Nat.succ_le_iff, List.length_pos_iff]

end Sets

theorem any_digits (c : Char) : [digits].any (Item.holdsExactly c) = true ↔ c.isDigit = true := by
  simp

end FormRules.Predicate
