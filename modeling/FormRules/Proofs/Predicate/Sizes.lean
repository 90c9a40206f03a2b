/-
# Sizes — how many bytes a whole number and a unit stand for

A size limit is written with plain digits and a unit, and white space may stand around either:

    unit            factor
    none, b         1
    kb              1024
    mb              1024 · 1024
    gb              1024 · 1024 · 1024

The digits are read as a binary number of 53 bits before they are multiplied.  So the limit is the
product exactly if the number takes no more bits than that and the product is below `2 ^ 1024`; a
longer number is rounded first, and a product beyond is no number of bytes at all (`parse_whole`).
The unit loses nothing, being a power of two, and no size that is met in practice is too long
(`parse_of_lt`).
-/
import FormRules.Predicate.FileSize
import FormRules.Proofs.Number.Decimal
import FormRules.Proofs.Number.Rounding
import FormRules.Proofs.Outcome
import FormRules.Proofs.Text.Case

namespace FormRules

/-! ## Plain digits as a decimal -/

namespace Numeral

/-- No name of a number begins with a digit. -/
theorem readNamed_of_isDigits {digits : List Char} (h : IsDigits digits) (negative : Bool) :
    readNamed negative digits = none := by
  obtain ⟨first, rest, rfl⟩ := List.exists_cons_of_ne_nil h.1
  have digit := h.2 first List.mem_cons_self
  have range := toNat_of_isDigit digit
  have notUpper : first.isUpper = false := by
    by_contra upper
    have letter := Unicode.toNat_of_isUpper (Bool.of_not_eq_false upper)
    omega
  have differs (name : String) (hname : name.toList.head?.any Char.isDigit = false) :
      String.ofList ((first :: rest).map Char.toLower) ≠ name := by
    rintro rfl
    rw [String.toList_ofList, List.map_cons, Unicode.toLower_of_not_isUpper notUpper] at hname
    exact Bool.noConfusion (digit.symm.trans hname)
  unfold readNamed
  dsimp only
  rw [if_neg (not_or.mpr ⟨differs _ (by decide), differs _ (by decide)⟩),
    if_neg (differs _ (by decide))]

/-- Plain digits are read as the number nearest to the one that they denote. -/
theorem readDecimal_of_isDigits {digits : List Char} (h : IsDigits digits) :
    readDecimal (String.ofList digits) =
      .ok (.ofDecimal false (ofDigits (digits.map plainValue)) 0) := by
  have numeric := isNumeric_of_isDigits h
  have unsigned := h.head_unsigned []
  have leading : leadingDigits (digits ++ []) = _ := leadingDigits_append h.2 nofun
  have signless := splitSign_append .none unsigned
  rw [List.append_nil] at leading signless
  have some : (digits.map plainValue).isEmpty = false := by
    rw [List.isEmpty_map]
    exact List.isEmpty_eq_false_iff.mpr h.1
  unfold readDecimal
  rw [String.toList_ofList, trim_of_isNumeric numeric, map_plainDigit_of_isNumeric numeric,
    dropUnderscores_of_isNumeric numeric (by decide)]
  dsimp only [bind, Option.bind]
  rw [show digits = [] ++ digits from rfl, signless]
  dsimp only
  rw [readNamed_of_isDigits h, readUnsigned_of_leading leading rfl, some]
  simp [readExponent]

end Numeral

namespace FileSize

open Numeral (IsDigits plainValue)

/-! ## Whole sizes -/

/-- How a unit may be written, and how many bytes it is. -/
inductive IsUnit : List Char → Nat → Prop
  | none : IsUnit [] 1
  | bytes {name : List Char} : name.map Char.toLower = ['b'] → IsUnit name 1
  | kilobytes {name : List Char} : name.map Char.toLower = ['k', 'b'] → IsUnit name 1024
  | megabytes {name : List Char} : name.map Char.toLower = ['m', 'b'] → IsUnit name (1024 * 1024)
  | gigabytes {name : List Char} :
      name.map Char.toLower = ['g', 'b'] → IsUnit name (1024 * 1024 * 1024)

/-- A text denotes `n` units of `unit` bytes: plain digits and the unit, with white space around
them. -/
def Denotes (text : String) (n unit : Nat) : Prop :=
  ∃ front digits gap name back,
    text.toList = front ++ (digits ++ (gap ++ (name ++ back))) ∧
      (∀ c ∈ front, Unicode.isBlank c = true) ∧ IsDigits digits ∧
      (∀ c ∈ gap, Unicode.isBlank c = true) ∧ IsUnit name unit ∧
      (∀ c ∈ back, Unicode.isBlank c = true) ∧
      n = Nat.ofDigits 10 (digits.map plainValue).reverse

/-! ## Characters -/

theorem not_isBlank_of_isDigit {c : Char} (h : Unicode.isDigit c = true) :
    Unicode.isBlank c = false := by
  obtain ⟨d, value⟩ := Option.isSome_iff_exists.mp h
  have notBlank := Numeral.not_isBlank_of_digitValue? value
  by_cases ascii : c.toNat < 128
  · rw [Unicode.digitValue?, if_pos ascii] at value
    have range := Numeral.toNat_of_isDigit (c := c) (by by_contra no; simp [no] at value)
    rw [Unicode.isBlank, Unicode.hasProperty, if_pos ascii]
    simp
    omega
  · rwa [Numeral.isBlank, if_neg ascii] at notBlank

theorem isDigit_of_isBlank {c : Char} (h : Unicode.isBlank c = true) :
    Unicode.isDigit c = false := by
  cases digit : Unicode.isDigit c with
  | true => exact absurd h (by simp [not_isBlank_of_isDigit digit])
  | false => rfl

theorem isDigit_of_plain {c : Char} (h : c.isDigit = true) : Unicode.isDigit c = true :=
  Option.isSome_iff_exists.mpr (Numeral.exists_digitValue?_of_isDigit h)

section Letters

variable {c : Char} (h : c.isAlpha = true)

include h

theorem not_isBlank_of_isAlpha : Unicode.isBlank c = false := by
  have range := Unicode.toNat_of_isAlpha h
  rw [Unicode.isBlank, Unicode.hasProperty, if_pos (by omega)]
  simp only [Bool.or_eq_false_iff, Bool.and_eq_false_iff, decide_eq_false_iff_not]
  omega

theorem isDigit_of_isAlpha : Unicode.isDigit c = false := by
  have range := Unicode.toNat_of_isAlpha h
  have notDigit : ¬ c.isDigit = true := by
    intro digit
    have range' := Numeral.toNat_of_isDigit digit
    omega
  rw [Unicode.isDigit, Unicode.digitValue?, if_pos (by omega), if_neg notDigit]
  rfl

end Letters

/-! ## Units -/

section Units

variable {name : List Char} {unit : Nat}

theorem IsUnit.letters (h : IsUnit name unit) : ∀ c ∈ name, c.isAlpha = true := by
  have small {lower : List Char} (h : name.map Char.toLower = lower)
      (letters : lower.all Char.isLower = true) : ∀ c ∈ name, c.isAlpha = true := by
    subst h
    intro c hc
    have letter := List.all_eq_true.mp letters _ (List.mem_map_of_mem hc)
    exact Unicode.isAlpha_of_isLower_toLower letter
  cases h with
  | none => exact nofun
  | bytes h => exact small h (by decide)
  | kilobytes h => exact small h (by decide)
  | megabytes h => exact small h (by decide)
  | gigabytes h => exact small h (by decide)

/-- A letter of a unit is folded to its lower case. -/
theorem IsUnit.map_foldChar (h : IsUnit name unit) :
    name.map Unicode.foldChar = name.map Char.toLower := by
  refine List.map_congr_left fun c hc => ?_
  have range := Unicode.toNat_of_isAlpha (h.letters c hc)
  rw [Unicode.foldChar, Unicode.lowerChar_of_ascii (by omega)]
  rfl

/-- Each unit is found. -/
theorem IsUnit.unit?_eq (h : IsUnit name unit) : unit? name = some unit := by
  unfold unit?
  rw [h.map_foldChar]
  cases h with
  | none => rfl
  | bytes h | kilobytes h | megabytes h | gigabytes h =>
      rw [h]
      rfl

theorem IsUnit.exists_eq_two_pow (h : IsUnit name unit) : ∃ j ≤ 30, unit = 2 ^ j := by
  cases h with
  | none | bytes _ => exact ⟨0, by decide, rfl⟩
  | kilobytes _ => exact ⟨10, by decide, rfl⟩
  | megabytes _ => exact ⟨20, by decide, rfl⟩
  | gigabytes _ => exact ⟨30, by decide, rfl⟩

end Units

/-! ## Splitting -/

theorem dropWhile_of_head {p : Char → Bool} {s : List Char} (h : ∀ c ∈ s.head?, p c = false) :
    s.dropWhile p = s := by
  cases s with
  | nil => rfl
  | cons c rest => exact List.dropWhile_cons_of_neg (Bool.eq_false_iff.mp (h c rfl))

/-- White space around a text without any is taken off. -/
theorem strip_append {gap name back : List Char} (hgap : ∀ c ∈ gap, Unicode.isBlank c = true)
    (hname : ∀ c ∈ name, Unicode.isBlank c = false)
    (hback : ∀ c ∈ back, Unicode.isBlank c = true) :
    Unicode.strip (gap ++ (name ++ back)) = name := by
  have reversed : ∀ c ∈ back.reverse, Unicode.isBlank c = true :=
    fun c hc => hback c (List.mem_reverse.mp hc)
  rw [Unicode.strip, List.dropWhile_append_of_pos hgap]
  cases name with
  | nil =>
      have dropped : (back ++ []).dropWhile Unicode.isBlank = _ :=
        List.dropWhile_append_of_pos hback
      rw [List.append_nil] at dropped
      rw [List.nil_append, dropped]
      rfl
  | cons first rest =>
      have front : ∀ c ∈ (first :: rest ++ back).head?, Unicode.isBlank c = false := by
        rintro _ ⟨⟩
        exact hname first List.mem_cons_self
      have last : ∀ c ∈ (first :: rest).reverse.head?, Unicode.isBlank c = false :=
        fun c hc => hname c (List.mem_reverse.mp (List.mem_of_mem_head? hc))
      rw [dropWhile_of_head front, List.reverse_append, List.dropWhile_append_of_pos reversed,
        dropWhile_of_head last, List.reverse_reverse]

/-- Digits are taken up to where neither a digit nor a point comes next. -/
theorem splitNumber_append {digits rest : List Char}
    (h : ∀ c ∈ digits, Unicode.isDigit c = true)
    (ends : ∀ c ∈ rest.head?, Unicode.isDigit c = false ∧ c ≠ '.') :
    splitNumber (digits ++ rest) = (digits, rest) := by
  have left : rest.dropWhile Unicode.isDigit = rest := dropWhile_of_head fun c hc => (ends c hc).1
  have taken : rest.takeWhile Unicode.isDigit = [] := by
    have whole := List.takeWhile_append_dropWhile (p := Unicode.isDigit) (l := rest)
    rwa [left, List.append_left_eq_self] at whole
  unfold splitNumber
  rw [List.takeWhile_append_of_pos h, List.dropWhile_append_of_pos h, taken, left,
    List.append_nil]
  dsimp only
  split
  · exact absurd rfl (ends '.' rfl).2
  · rfl

/-- A whole size is split into its digits and its unit. -/
theorem Denotes.exists_split {text : String} {n unit : Nat} (h : Denotes text n unit) :
    ∃ digits, split? text = some (digits, unit) ∧ IsDigits digits ∧
      n = Numeral.ofDigits (digits.map plainValue) := by
  obtain ⟨front, digits, gap, name, back, written, hfront, hdigits, hgap, named, hback, rfl⟩ := h
  have numbers : ∀ c ∈ digits, Unicode.isDigit c = true :=
    fun c hc => isDigit_of_plain (hdigits.2 c hc)
  have letters : ∀ c ∈ name, Unicode.isBlank c = false :=
    fun c hc => not_isBlank_of_isAlpha (named.letters c hc)
  -- Behind the digits comes white space or a letter, if anything.
  have ends : ∀ c ∈ (gap ++ (name ++ back)).head?, Unicode.isDigit c = false ∧ c ≠ '.' := by
    have blank {s : List Char} (hs : ∀ c ∈ s, Unicode.isBlank c = true) :
        ∀ c ∈ s, Unicode.isDigit c = false ∧ c ≠ '.' :=
      fun c hc => ⟨isDigit_of_isBlank (hs c hc), fun point => by cases point ▸ hs c hc⟩
    have letter : ∀ c ∈ name, Unicode.isDigit c = false ∧ c ≠ '.' :=
      fun c hc => ⟨isDigit_of_isAlpha (named.letters c hc),
        fun point => by cases point ▸ named.letters c hc⟩
    intro c hc
    exact List.forall_mem_append.mpr ⟨blank hgap, List.forall_mem_append.mpr ⟨letter, blank hback⟩⟩
      c (List.mem_of_mem_head? hc)
  have split := splitNumber_append numbers ends
  have started : (digits ++ (gap ++ (name ++ back))).dropWhile Unicode.isBlank =
      digits ++ (gap ++ (name ++ back)) := by
    obtain ⟨first, rest, rfl⟩ := List.exists_cons_of_ne_nil hdigits.1
    refine dropWhile_of_head ?_
    rintro _ ⟨⟩
    exact not_isBlank_of_isDigit (numbers first List.mem_cons_self)
  have some : digits.isEmpty = false := List.isEmpty_eq_false_iff.mpr hdigits.1
  refine ⟨digits, ?_, hdigits, (Numeral.ofDigits_eq _).symm⟩
  unfold split?
  rw [written, List.dropWhile_append_of_pos hfront, started, split]
  dsimp only
  rw [some, strip_append hgap letters hback, named.unit?_eq]
  rfl

/-- Every unit is a power of two. -/
theorem Denotes.exists_unit_eq {text : String} {n unit : Nat} (h : Denotes text n unit) :
    ∃ j ≤ 30, unit = 2 ^ j := by
  obtain ⟨front, digits, gap, name, back, -, -, -, -, named, -, -⟩ := h
  exact named.exists_eq_two_pow

/-! ## Reading -/

/-- A number that is whole is cut to itself. -/
theorem toInteger_of_holds {x : Binary64} {r : Nat} (h : x.Holds r) :
    toInteger x =
      if r < Binary64.ceiling then .ok (r : Int) else .error .infiniteInteger := by
  cases h with
  | @finite m _ e value bound =>
      have quotient : (Binary64.ratio m e).1 / (Binary64.ratio m e).2 = r := by
        rw [value, Nat.mul_div_cancel _ (Binary64.ratio_pos m e)]
      have cut : (Binary64.finite false m e).truncate? = some (r : Int) := by
        rw [← quotient]
        rfl
      rw [if_pos bound, toInteger, cut]
  | infinite beyond =>
      rw [if_neg (Nat.not_lt.mpr beyond)]
      rfl

/-- Digits without a fraction or an exponent hold the number that theirs is rounded to. -/
theorem exists_holds_ofDecimal (n : Nat) :
    ∃ r, Binary64.IsRounded n r ∧ (Binary64.ofDecimal false n 0).Holds r := by
  rcases Nat.eq_zero_or_pos n with rfl | positive
  · exact ⟨0, Binary64.isRounded_self (Binary64.isOfBits_of_lt (by decide)), Binary64.holds_zero⟩
  · obtain ⟨r, rounded, holds⟩ := Binary64.exists_holds_ofRatio positive Nat.one_pos
    refine ⟨r, rounded, ?_⟩
    have inRange : ¬ (0 : Int) < -400 - (Nat.log2 n : Int) := by omega
    rw [Binary64.ofDecimal, if_neg positive.ne', if_neg (by decide), if_neg inRange,
      if_pos (Int.le_refl 0)]
    exact holds

/-- The size is the product of its digits, read as a decimal, and its unit. -/
theorem Denotes.parse_eq {text : String} {n unit : Nat} (h : Denotes text n unit) :
    parse text = toInteger ((Binary64.ofDecimal false n 0).mul (.ofInt unit)) := by
  obtain ⟨digits, split, plain, rfl⟩ := h.exists_split
  have read : readDecimal (String.ofList digits) =
      .ok (.ofDecimal false (Numeral.ofDigits (digits.map plainValue)) 0) := by
    rw [readDecimal, Numeral.readDecimal_of_isDigits plain]
    rfl
  rw [parse, split]
  dsimp only
  rw [read, ok_bind]

/-- The number of units is rounded, and the unit loses nothing. -/
theorem Denotes.exists_parse_eq {text : String} {n unit : Nat} (h : Denotes text n unit) :
    ∃ r, Binary64.IsRounded n r ∧ parse text =
      if r * unit < Binary64.ceiling then .ok ((r * unit : Nat) : Int)
      else .error .infiniteInteger := by
  obtain ⟨r, rounded, holds⟩ := exists_holds_ofDecimal n
  obtain ⟨j, small, rfl⟩ := h.exists_unit_eq
  have one : Binary64.IsOfBits 53 (1 * 2 ^ j) :=
    (Binary64.isOfBits_of_lt (by decide)).mul_two_pow j
  rw [Nat.one_mul] at one
  have bound : 2 ^ j < Binary64.ceiling :=
    Binary64.lt_ceiling (Nat.pow_lt_pow_right Nat.one_lt_two (Nat.lt_succ_self j)) (by omega)
  have product := holds.mul (Binary64.holds_ofInt one) (Nat.two_pow_pos j) bound
    (rounded.bits.mul_two_pow j)
  exact ⟨r, rounded, h.parse_eq.trans (toInteger_of_holds product)⟩

/-- A number of no more than 53 bits is read as it is written, whatever the unit. -/
theorem parse_of_lt {text : String} {n unit : Nat} (h : Denotes text n unit) (small : n < 2 ^ 53) :
    parse text = .ok ((n * unit : Nat) : Int) := by
  obtain ⟨r, rounded, parsed⟩ := h.exists_parse_eq
  obtain rfl := rounded.eq_iff.mpr (Binary64.isOfBits_of_lt small)
  obtain ⟨j, most, rfl⟩ := h.exists_unit_eq
  have within := Binary64.mul_lt_ceiling small (most.trans (by decide : 30 ≤ 971)) rfl
  rw [parsed, if_pos within]

example : parse " 1536\tKb " = .ok (1536 * 1024) := rfl

/-- **Whole sizes.**  The digits are rounded to a number `r` of 53 bits, and what is read is `r`
units, unless these are `2 ^ 1024` bytes or more, which fails.  So the size is the one written
exactly if its number takes no more than 53 bits and its bytes are below that bound. -/
theorem parse_whole {text : String} {n unit : Nat} (h : Denotes text n unit) :
    ∃ r, Binary64.IsRounded n r ∧
      parse text =
        (if r * unit < Binary64.ceiling then .ok ((r * unit : Nat) : Int)
          else .error .infiniteInteger) ∧
      (parse text = .ok ((n * unit : Nat) : Int) ↔
        Binary64.IsOfBits 53 n ∧ n * unit < Binary64.ceiling) := by
  obtain ⟨r, rounded, parsed⟩ := h.exists_parse_eq
  obtain ⟨j, -, rfl⟩ := h.exists_unit_eq
  refine ⟨r, rounded, parsed, ?_⟩
  rw [parsed, ← rounded.eq_iff]
  constructor
  · intro exact
    split at exact
    · rename_i within
      have same : r * 2 ^ j = n * 2 ^ j := by
        rw [Except.ok.injEq] at exact
        exact_mod_cast exact
      obtain rfl := Nat.eq_of_mul_eq_mul_right (Nat.two_pow_pos j) same
      exact ⟨rfl, within⟩
    · cases exact
  · rintro ⟨rfl, within⟩
    rw [if_pos within]

/-- The least number that needs all of 54 bits is read as its neighbour. -/
theorem parse_of_54_bits :
    Denotes "9007199254740993" 9007199254740993 1 ∧
      parse "9007199254740993" = .ok 9007199254740992 ∧
      parse "9007199254740993" ≠ .ok 9007199254740993 := by
  have digits : IsDigits "9007199254740993".toList :=
    ⟨by decide, List.all_eq_true.mp (by decide : "9007199254740993".toList.all Char.isDigit = true)⟩
  have denotes : Denotes "9007199254740993" 9007199254740993 1 :=
    ⟨[], _, [], [], [], rfl, nofun, digits, nofun, .none, nofun, by decide⟩
  obtain ⟨r, -, -, exact⟩ := parse_whole denotes
  refine ⟨denotes, by rfl, fun parsed => ?_⟩
  obtain ⟨bits, -⟩ := exact.mp parsed
  exact absurd (bits.dvd_or_lt 1) (by decide)

end FileSize

end FormRules
