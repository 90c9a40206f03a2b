/-
# Rounding — which number stands for a whole one

A binary number has 53 bits, so a whole number with more of them is rounded to one of 53 bits, up or
down to the nearer one, and from the middle to the one whose last bit is zero.  Which of the two that
is can be said without looking at bits: it is the one that 52 bits are enough for.

    `IsOfBits b n`       `n` is a number below `2 ^ b`, times a power of two
    `IsRounded n r`      of the numbers of 53 bits, `r` is the one that `n` is rounded to
    `x.Holds r`          `x` is `r`, or infinite if `r` is `2 ^ 1024` or more

The number that is made from a quotient depends on its value alone; for a quotient that is a whole
number it holds the rounded one (`exists_holds_ofRatio`).  Multiplying by a power of two loses nothing
(`Holds.mul`), since it leaves the bits as they are.
-/
import FormRules.Number.Binary64
import Mathlib.Data.Nat.Log
import Mathlib.Tactic.Ring

namespace FormRules.Binary64

/-! ## Whole numbers of few bits -/

/-- A number below `2 ^ bits`, times a power of two. -/
def IsOfBits (bits n : Nat) : Prop := ∃ m k, m < 2 ^ bits ∧ n = m * 2 ^ k

/-- The distance of two numbers. -/
def gap (n r : Nat) : Nat := ((n : Int) - r).natAbs

/-- Of the numbers of 53 bits, `r` is the nearest one to `n`, and of two that are equally near the one
that takes fewer bits. -/
structure IsRounded (n r : Nat) : Prop where
  bits : IsOfBits 53 r
  nearest : ∀ s, IsOfBits 53 s → gap n r ≤ gap n s
  even : ∀ s, IsOfBits 53 s → s ≠ r → gap n s = gap n r → IsOfBits 52 r

theorem isOfBits_of_lt {bits n : Nat} (h : n < 2 ^ bits) : IsOfBits bits n :=
  ⟨n, 0, h, by rw [pow_zero, Nat.mul_one]⟩

/-- The power of two itself takes a single bit. -/
theorem isOfBits_of_le {bits m : Nat} (k : Nat) (hbits : 0 < bits) (h : m ≤ 2 ^ bits) :
    IsOfBits bits (m * 2 ^ k) := by
  rcases Nat.lt_or_eq_of_le h with small | rfl
  · exact ⟨m, k, small, rfl⟩
  · exact ⟨1, bits + k, Nat.one_lt_two_pow hbits.ne', by rw [Nat.one_mul, Nat.pow_add]⟩

theorem IsOfBits.mul_two_pow {bits n : Nat} (h : IsOfBits bits n) (j : Nat) :
    IsOfBits bits (n * 2 ^ j) := by
  obtain ⟨m, k, small, rfl⟩ := h
  exact ⟨m, k + j, small, by rw [Nat.pow_add, Nat.mul_assoc]⟩

/-- A number of few bits is even up to a certain power of two, or it is small. -/
theorem IsOfBits.dvd_or_lt {bits n : Nat} (h : IsOfBits (bits + 1) n) (k : Nat) :
    2 ^ k ∣ n ∨ n < 2 ^ (bits + k) := by
  obtain ⟨m, j, small, rfl⟩ := h
  rcases Nat.lt_or_ge j k with below | above
  · right
    calc m * 2 ^ j < 2 ^ (bits + 1) * 2 ^ j := Nat.mul_lt_mul_of_pos_right small (Nat.two_pow_pos j)
      _ = 2 ^ (bits + 1 + j) := (Nat.pow_add 2 (bits + 1) j).symm
      _ ≤ 2 ^ (bits + k) := Nat.pow_le_pow_right Nat.two_pos (by omega)
  · exact .inl (Dvd.dvd.mul_left (Nat.pow_dvd_pow 2 above) m)

/-- A number of 53 bits is rounded to itself, and only such a number is. -/
theorem IsRounded.eq_iff {n r : Nat} (h : IsRounded n r) : r = n ↔ IsOfBits 53 n := by
  constructor
  · rintro rfl
    exact h.bits
  · intro exact
    have near := h.nearest n exact
    unfold gap at near
    omega

theorem isRounded_self {n : Nat} (h : IsOfBits 53 n) : IsRounded n n where
  bits := h
  nearest s _ := by unfold gap; omega
  even s _ other near := by unfold gap at near; omega

/-! ## Rounding a quotient -/

/-- The rounded quotient is as near as can be, and even in the middle. -/
theorem roundDiv_spec (num : Nat) {den : Nat} (hden : 0 < den) :
    2 * gap num (roundDiv num den * den) ≤ den ∧
      (2 * gap num (roundDiv num den * den) = den → 2 ∣ roundDiv num den) := by
  have parts := Nat.div_add_mod' num den
  have small := Nat.mod_lt num hden
  have next : (num / den + 1) * den = num / den * den + den := Nat.succ_mul _ _
  unfold roundDiv gap
  dsimp only
  split
  · omega
  · split
    · omega
    · split
      · omega
      · omega

theorem roundDiv_mul_right (num den : Nat) {c : Nat} (hc : 0 < c) :
    roundDiv (num * c) (den * c) = roundDiv num den := by
  unfold roundDiv
  rw [Nat.mul_div_mul_right _ _ hc, Nat.mul_mod_mul_right, ← Nat.mul_assoc]
  simp only [Nat.mul_lt_mul_right hc]

theorem roundDiv_one (n : Nat) : roundDiv n 1 = n := by
  simp [roundDiv, Nat.mod_one]

theorem le_roundDiv {n m den : Nat} (hden : 0 < den) (h : m * den ≤ n) : m ≤ roundDiv n den := by
  have floor : m ≤ n / den := (Nat.le_div_iff_mul_le hden).mpr h
  unfold roundDiv
  dsimp only
  split_ifs <;> omega

theorem roundDiv_le {n m den : Nat} (hden : 0 < den) (h : n < m * den) : roundDiv n den ≤ m := by
  have floor : n / den < m := (Nat.div_lt_iff_lt_mul hden).mpr h
  unfold roundDiv
  dsimp only
  split_ifs <;> omega

/-! ## Rounding a whole number -/

/-- How many bits of a number are rounded away. -/
def excess (n : Nat) : Nat := Nat.log2 n - 52

/-- The mantissa that is left. -/
def kept (n : Nat) : Nat := roundDiv n (2 ^ excess n)

theorem two_pow_log2_le {n : Nat} (hn : 0 < n) : 2 ^ Nat.log2 n ≤ n := Nat.log2_self_le hn.ne'

theorem lt_two_pow_log2 (n : Nat) : n < 2 ^ (Nat.log2 n + 1) := Nat.lt_log2_self

theorem excess_eq_zero {n : Nat} (h : Nat.log2 n < 52) : excess n = 0 := by
  unfold excess
  omega

theorem kept_of_small {n : Nat} (h : Nat.log2 n < 52) : kept n = n := by
  rw [kept, excess_eq_zero h, pow_zero, roundDiv_one]

theorem le_kept {n : Nat} (hn : 0 < n) (h : 52 ≤ Nat.log2 n) : 2 ^ 52 ≤ kept n := by
  refine le_roundDiv (Nat.two_pow_pos _) ?_
  rw [← Nat.pow_add, excess, Nat.add_sub_cancel' h]
  exact two_pow_log2_le hn

theorem kept_le (n : Nat) : kept n ≤ 2 ^ 53 := by
  refine roundDiv_le (Nat.two_pow_pos _) ?_
  rw [← Nat.pow_add]
  refine (lt_two_pow_log2 n).trans_le (Nat.pow_le_pow_right Nat.two_pos ?_)
  unfold excess
  omega

/-- Among the multiples of a step one is nearest if it is at most half a step away, and another one is
as near only from the middle. -/
theorem gap_le_of_dvd {n r s step : Nat} (near : 2 * gap n r ≤ step) (hr : step ∣ r)
    (hs : step ∣ s) (other : s ≠ r) :
    gap n r ≤ gap n s ∧ (gap n s = gap n r → 2 * gap n r = step) := by
  obtain ⟨q, rfl⟩ := hr
  obtain ⟨t, rfl⟩ := hs
  have apart : step * t + step ≤ step * q ∨ step * q + step ≤ step * t := by
    rcases Nat.lt_or_gt_of_ne fun same : t = q => other (same ▸ rfl) with below | above
    · exact .inl (Nat.mul_le_mul_left step below)
    · exact .inr (Nat.mul_le_mul_left step above)
  unfold gap at near ⊢
  omega

/-- A number of 53 bits that is no multiple of the step lies below all numbers of that step. -/
theorem gap_lt_of_not_dvd {n r s k : Nat} (hn : 2 ^ (52 + k) ≤ n) (near : 2 * gap n r ≤ 2 ^ k)
    (hr : 2 ^ k ∣ r) (hs : IsOfBits 53 s) (other : ¬ 2 ^ k ∣ s) : gap n r < gap n s := by
  have below : s < 2 ^ (52 + k) := (hs.dvd_or_lt k).resolve_left other
  have least : gap n r ≤ gap n (2 ^ (52 + k)) := by
    by_cases same : 2 ^ (52 + k) = r
    · rw [same]
    · exact (gap_le_of_dvd near hr (Nat.pow_dvd_pow 2 (Nat.le_add_left k 52)) same).1
  unfold gap at least ⊢
  omega

/-- **Rounding the mantissa rounds the number.** -/
theorem isRounded_kept (n : Nat) : IsRounded n (kept n * 2 ^ excess n) := by
  rcases Nat.lt_or_ge (Nat.log2 n) 52 with small | large
  · rw [kept_of_small small, excess_eq_zero small, pow_zero, Nat.mul_one]
    have bound : n < 2 ^ 53 :=
      (lt_two_pow_log2 n).trans_le (Nat.pow_le_pow_right Nat.two_pos (by omega))
    exact isRounded_self (isOfBits_of_lt bound)
  · have positive : 0 < n := Nat.pos_of_ne_zero fun zero => absurd large (by rw [zero]; decide)
    have exponent : 52 + excess n = Nat.log2 n := Nat.add_sub_cancel' large
    have least : 2 ^ (52 + excess n) ≤ n := exponent ▸ two_pow_log2_le positive
    have multiple : 2 ^ excess n ∣ kept n * 2 ^ excess n := Dvd.intro_left _ rfl
    obtain ⟨near, even⟩ := roundDiv_spec n (Nat.two_pow_pos (excess n))
    refine ⟨isOfBits_of_le _ (by decide) (kept_le n), fun s hs => ?_, fun s hs other tie => ?_⟩
    · by_cases same : s = kept n * 2 ^ excess n
      · rw [same]
      · by_cases hdvd : 2 ^ excess n ∣ s
        · exact (gap_le_of_dvd near multiple hdvd same).1
        · exact (gap_lt_of_not_dvd least near multiple hs hdvd).le
    · by_cases hdvd : 2 ^ excess n ∣ s
      · -- From the middle the mantissa is even, and its half takes one bit less.
        obtain ⟨half, twice⟩ : 2 ∣ kept n := even ((gap_le_of_dvd near multiple hdvd other).2 tie)
        have bound := kept_le n
        rw [twice, Nat.mul_comm 2 half, Nat.mul_assoc, ← Nat.pow_succ']
        exact isOfBits_of_le _ (by decide) (by omega)
      · exact absurd tie (gap_lt_of_not_dvd least near multiple hs hdvd).ne'

/-! ## Numbers that hold whole ones -/

/-- The power of two that is beyond all numbers. -/
def ceiling : Nat := 2 ^ 1024

theorem ceiling_eq (j : Nat) {k : Nat} (h : j + k = 1024) : ceiling = 2 ^ j * 2 ^ k := by
  rw [ceiling, ← h, Nat.pow_add]

theorem ceiling_le {m j k e : Nat} (low : 2 ^ j ≤ m) (least : e ≤ k) (h : j + e = 1024) :
    ceiling ≤ m * 2 ^ k := by
  rw [ceiling_eq j h]
  exact Nat.mul_le_mul low (Nat.pow_le_pow_right Nat.two_pos least)

theorem mul_lt_ceiling {m j k e : Nat} (high : m < 2 ^ j) (most : k ≤ e) (h : j + e = 1024) :
    m * 2 ^ k < ceiling := by
  rw [ceiling_eq j h]
  exact Nat.mul_lt_mul_of_lt_of_le high (Nat.pow_le_pow_right Nat.two_pos most) (Nat.two_pow_pos e)

theorem lt_ceiling {n k : Nat} (h : n < 2 ^ k) (hk : k ≤ 1024) : n < ceiling := by
  have below := mul_lt_ceiling h (Nat.zero_le _) (Nat.add_sub_cancel' hk)
  rwa [pow_zero, Nat.mul_one] at below

/-- A number is the whole number `r`, or it is infinite because that is too large. -/
inductive Holds : Binary64 → Nat → Prop
  | finite {m r : Nat} {e : Int} (value : (ratio m e).1 = r * (ratio m e).2) (bound : r < ceiling) :
      Holds (.finite false m e) r
  | infinite {r : Nat} (beyond : ceiling ≤ r) : Holds (.infinite false) r

theorem ratio_pos (m : Nat) (e : Int) : 0 < (ratio m e).2 := by
  unfold ratio
  split
  · exact Nat.one_pos
  · exact Nat.two_pow_pos _

theorem ratio_of_nonneg (m k : Nat) : ratio m (k : Int) = (m * 2 ^ k, 1) := by
  rw [ratio, if_pos (Int.natCast_nonneg k), Int.toNat_natCast]
  rfl

theorem holds_zero : (zero false).Holds 0 :=
  .finite (by rw [ratio, if_neg (by decide), Nat.zero_mul]) (lt_ceiling Nat.one_pos (Nat.zero_le _))

/-- A full mantissa at a whole exponent is a number unless the exponent is too large. -/
theorem holds_of_full {m k : Nat} (low : 2 ^ 52 ≤ m) (high : m < 2 ^ 53) :
    (if greatestExponent < k then .infinite false else .finite false m k : Binary64).Holds
      (m * 2 ^ k) := by
  split
  · rename_i beyond
    have least : 972 ≤ k := by unfold greatestExponent at beyond; omega
    exact .infinite (ceiling_le low least rfl)
  · rename_i within
    have most : k ≤ 971 := by unfold greatestExponent at within; omega
    exact .finite (by rw [ratio_of_nonneg, Nat.mul_one]) (mul_lt_ceiling high most rfl)

/-! ## Quotients that are whole numbers -/

/-- What is made of a quotient, by its mantissa at the right exponent. -/
theorem ofRatio_of_scaled {num den a b : Nat} {e : Int} (hnum : num ≠ 0)
    (exponent : max (floorLog num den - 52) leastExponent = e) (parts : scaled num den e = (a, b)) :
    ofRatio false num den =
      if roundDiv a b = 2 ^ 53 then
        if greatestExponent < e + 1 then .infinite false else .finite false (2 ^ 52) (e + 1)
      else if greatestExponent < e then .infinite false else .finite false (roundDiv a b) e := by
  unfold ofRatio
  rw [if_neg hnum]
  simp only [exponent, parts, Nat.pow_eq]
  by_cases full : roundDiv a b = 2 ^ 53
  · simp only [if_pos full]
  · simp only [if_neg full]

section Quotients

variable {n den : Nat} (hn : 0 < n) (hden : 0 < den)

include hn hden

theorem floorLog_mul_right : floorLog (n * den) den = Nat.log2 n := by
  have positive : 0 < n * den := Nat.mul_pos hn hden
  have low : Nat.log2 n + Nat.log2 den < Nat.log2 (n * den) + 1 := by
    rw [← Nat.pow_lt_pow_iff_right Nat.one_lt_two, Nat.pow_add]
    exact (Nat.mul_le_mul (two_pow_log2_le hn) (two_pow_log2_le hden)).trans_lt (lt_two_pow_log2 _)
  have high : Nat.log2 (n * den) < Nat.log2 n + 1 + (Nat.log2 den + 1) := by
    rw [← Nat.pow_lt_pow_iff_right Nat.one_lt_two, Nat.pow_add]
    exact (two_pow_log2_le positive).trans_lt
      (Nat.mul_lt_mul'' (lt_two_pow_log2 n) (lt_two_pow_log2 den))
  obtain ⟨l, hl⟩ : ∃ l : Nat, (Nat.log2 (n * den) : Int) - Nat.log2 den = l :=
    ⟨Nat.log2 (n * den) - Nat.log2 den, by omega⟩
  have tested : den * 2 ^ l ≤ n * den ↔ l ≤ Nat.log2 n := by
    rw [Nat.mul_comm n den, Nat.mul_le_mul_left_iff hden, Nat.le_log2 hn.ne']
  unfold floorLog scaled
  rw [hl]
  simp only [Int.natCast_nonneg, if_pos, Int.toNat_natCast, Nat.pow_eq, tested]
  split <;> omega

/-- The exponent of a whole number is never the least one. -/
theorem exponent_of_whole :
    max (floorLog (n * den) den - 52) leastExponent = (Nat.log2 n : Int) - 52 := by
  rw [floorLog_mul_right hn hden]
  unfold leastExponent
  omega

/-- A whole number of less than 53 bits is kept, with zeros at the end of its mantissa. -/
theorem holds_ofRatio_of_small (small : Nat.log2 n < 52) : (ofRatio false (n * den) den).Holds n := by
  obtain ⟨k, hk⟩ : ∃ k : Nat, 52 = Nat.log2 n + (k + 1) := ⟨52 - Nat.log2 n - 1, by omega⟩
  have exponent : max (floorLog (n * den) den - 52) leastExponent = -((k + 1 : Nat) : Int) := by
    rw [exponent_of_whole hn hden]
    omega
  have negative : ¬ (0 : Int) ≤ -((k + 1 : Nat) : Int) := by omega
  have mantissa : roundDiv (n * den * 2 ^ (k + 1)) den = n * 2 ^ (k + 1) := by
    have exact := roundDiv_mul_right (n * 2 ^ (k + 1)) 1 hden
    rwa [Nat.one_mul, roundDiv_one, Nat.mul_right_comm] at exact
  have bound : n * 2 ^ (k + 1) < 2 ^ 53 := by
    have room := Nat.mul_lt_mul_of_pos_right (lt_two_pow_log2 n) (Nat.two_pow_pos (k + 1))
    rwa [← Nat.pow_add, show Nat.log2 n + 1 + (k + 1) = 53 by omega] at room
  have parts : scaled (n * den) den (-((k + 1 : Nat) : Int)) = (n * den * 2 ^ (k + 1), den) := by
    rw [scaled, if_neg negative, Int.neg_neg, Int.toNat_natCast]
    rfl
  rw [ofRatio_of_scaled (Nat.mul_pos hn hden).ne' exponent parts, mantissa, if_neg bound.ne,
    if_neg (by unfold greatestExponent; omega)]
  refine .finite ?_ (lt_ceiling (lt_two_pow_log2 n) (by omega))
  rw [ratio, if_neg negative, Int.neg_neg, Int.toNat_natCast]
  rfl

/-- A whole number of 53 bits or more is cut to these. -/
theorem holds_ofRatio_of_large (large : 52 ≤ Nat.log2 n) :
    (ofRatio false (n * den) den).Holds (kept n * 2 ^ excess n) := by
  have exponent : max (floorLog (n * den) den - 52) leastExponent = (excess n : Nat) := by
    rw [exponent_of_whole hn hden]
    unfold excess
    omega
  have mantissa : roundDiv (n * den) (den * 2 ^ excess n) = kept n := by
    rw [Nat.mul_comm den, roundDiv_mul_right _ _ hden, kept]
  have parts : scaled (n * den) den (excess n : Nat) = (n * den, den * 2 ^ excess n) := by
    rw [scaled, if_pos (Int.natCast_nonneg _), Int.toNat_natCast]
    rfl
  rw [ofRatio_of_scaled (Nat.mul_pos hn hden).ne' exponent parts, mantissa]
  split
  · rename_i full
    -- Rounding has carried into one more bit.
    have carried : kept n * 2 ^ excess n = 2 ^ 52 * 2 ^ (excess n + 1) := by
      rw [full, ← Nat.pow_add, ← Nat.pow_add]
      congr 1
      omega
    rw [carried]
    exact holds_of_full (Nat.le_refl _) (Nat.pow_lt_pow_right Nat.one_lt_two (Nat.lt_succ_self 52))
  · rename_i notFull
    exact holds_of_full (le_kept hn large) (Nat.lt_of_le_of_ne (kept_le n) notFull)

/-- **A quotient that is a whole number** becomes the number that holds the rounded one. -/
theorem exists_holds_ofRatio :
    ∃ r, IsRounded n r ∧ (ofRatio false (n * den) den).Holds r := by
  refine ⟨_, isRounded_kept n, ?_⟩
  rcases Nat.lt_or_ge (Nat.log2 n) 52 with small | large
  · rw [kept_of_small small, excess_eq_zero small, pow_zero, Nat.mul_one]
    exact holds_ofRatio_of_small hn hden small
  · exact holds_ofRatio_of_large hn hden large

end Quotients

/-! ## Products -/

/-- A whole number of 53 bits becomes a number without being rounded. -/
theorem holds_ofInt {u : Nat} (bits : IsOfBits 53 u) : (ofInt u).Holds u := by
  have sign : decide ((u : Int) < 0) = false := decide_eq_false (by omega)
  rw [ofInt, sign, Int.natAbs_natCast]
  rcases Nat.eq_zero_or_pos u with rfl | positive
  · exact holds_zero
  · obtain ⟨r, rounded, holds⟩ := exists_holds_ofRatio positive Nat.one_pos
    rw [Nat.mul_one] at holds
    rwa [rounded.eq_iff.mpr bits] at holds

theorem Holds.mantissa_pos {m u : Nat} {e : Int} (value : (ratio m e).1 = u * (ratio m e).2)
    (hu : 0 < u) : 0 < m := by
  rcases Nat.eq_zero_or_pos m with rfl | positive
  · have nothing : (ratio 0 e).1 = 0 := by
      unfold ratio
      split <;> simp
    have some : 0 < u * (ratio 0 e).2 := Nat.mul_pos hu (ratio_pos 0 e)
    omega
  · exact positive

/-- A product of whole numbers is not rounded if it takes no more than 53 bits. -/
theorem Holds.mul {x y : Binary64} {r u : Nat} (hx : x.Holds r) (hy : y.Holds u) (hu : 0 < u)
    (small : u < ceiling) (bits : IsOfBits 53 (r * u)) : (x.mul y).Holds (r * u) := by
  cases hy with
  | infinite beyond => exact absurd beyond (Nat.not_le.mpr small)
  | @finite n _ f value' bound' =>
      cases hx with
      | infinite beyond =>
          have some : n ≠ 0 := (mantissa_pos value' hu).ne'
          rw [Binary64.mul, if_neg some]
          exact .infinite (beyond.trans (Nat.le_mul_of_pos_right r hu))
      | @finite m _ e value bound =>
          have product : (ratio m e).1 * (ratio n f).1 =
              r * u * ((ratio m e).2 * (ratio n f).2) := by
            rw [value, value', Nat.mul_mul_mul_comm]
          have positive : 0 < (ratio m e).2 * (ratio n f).2 :=
            Nat.mul_pos (ratio_pos m e) (ratio_pos n f)
          show (if (ratio m e).1 * (ratio n f).1 = 0 then zero false
            else ofRatio false ((ratio m e).1 * (ratio n f).1)
              ((ratio m e).2 * (ratio n f).2)).Holds (r * u)
          rw [product]
          rcases Nat.eq_zero_or_pos (r * u) with none | some
          · rw [none, Nat.zero_mul, if_pos rfl]
            exact holds_zero
          · rw [if_neg (Nat.mul_pos some positive).ne']
            obtain ⟨r', rounded, holds⟩ := exists_holds_ofRatio some positive
            rwa [rounded.eq_iff.mpr bits] at holds

end FormRules.Binary64
