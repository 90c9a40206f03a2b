/-
# Layouts of dates — which texts are read as a day

Behind the four digits of the year a day is written as month and day, as a week, or as a week and a
day of it, and the pieces are set apart by hyphens or not at all:

    2024-01-05    2024-W01    2024-W01-5
    20240105      2024W01     2024W015

`Follows` is this grammar.  The reader follows it from left to right and asks at each place whether
the text goes on in the one way that it can (`startsWithDay_iff`); it does not ask whether the text
ends.  That is left to the length, which is counted in bytes: a text has seven, eight or ten of
them.  With hyphens these are the layouts and nothing else.  Without, a day ends after eight bytes,
so that two more may follow (`isReadable_iff`).
-/
import FormRules.Proofs.Calendar.Date
import FormRules.Proofs.Number.Integer

namespace FormRules.Date

open Numeral

/-! ## Numbers of a fixed width -/

/-- Plain digits, how many there are, and the number that they denote. -/
structure IsNumber (width n : Nat) (s : List Char) : Prop where
  length : s.length = width
  isDigit : ∀ c ∈ s, c.isDigit = true
  value : Nat.ofDigits 10 (s.map plainValue).reverse = n

/-- Digits are read one by one onto the number that was read before them. -/
theorem number?_eq_some_iff_foldl {width before n : Nat} {s rest : List Char} :
    number? width before s = some (n, rest) ↔
      ∃ w, s = w ++ rest ∧ w.length = width ∧ (∀ c ∈ w, c.isDigit = true) ∧
        w.foldl (fun v c => 10 * v + plainValue c) before = n := by
  -- each digit read makes the number before the next one, so the induction is for any of them
  induction width generalizing before s with
  | zero =>
      constructor
      · intro h
        cases h
        exact ⟨[], rfl, rfl, nofun, rfl⟩
      · rintro ⟨w, rfl, empty, -, rfl⟩
        obtain rfl := List.length_eq_zero_iff.mp empty
        rfl
  | succ width ih =>
      cases s with
      | nil =>
          refine iff_of_false nofun ?_
          rintro ⟨w, split, length, -, -⟩
          obtain ⟨rfl, -⟩ := List.append_eq_nil_iff.mp split.symm
          cases length
      | cons c tail =>
          rw [number?]
          by_cases digit : c.isDigit = true
          · rw [if_pos digit, ih]
            constructor
            · rintro ⟨w, rfl, rfl, digits, value⟩
              exact ⟨c :: w, rfl, rfl, List.forall_mem_cons.mpr ⟨digit, digits⟩, value⟩
            · rintro ⟨_ | ⟨d, w⟩, split, length, digits, value⟩
              · cases length
              · cases split
                exact ⟨w, rfl, Nat.succ.inj length, (List.forall_mem_cons.mp digits).2, value⟩
          · rw [if_neg digit]
            refine iff_of_false nofun ?_
            rintro ⟨_ | ⟨d, w⟩, split, length, digits, -⟩
            · cases length
            · cases split
              exact digit (digits c List.mem_cons_self)

/-- A number is read off the front of a text. -/
theorem number?_eq_some_iff {width n : Nat} {s rest : List Char} :
    number? width 0 s = some (n, rest) ↔ ∃ w, s = w ++ rest ∧ IsNumber width n w := by
  rw [number?_eq_some_iff_foldl]
  have value (w : List Char) : w.foldl (fun v c => 10 * v + plainValue c) 0 =
      Nat.ofDigits 10 (w.map plainValue).reverse := by
    rw [← ofDigits_eq, ofDigits, List.foldl_map]
  constructor
  · rintro ⟨w, split, length, digits, same⟩
    exact ⟨w, split, length, digits, value w ▸ same⟩
  · rintro ⟨w, split, length, digits, same⟩
    exact ⟨w, split, length, digits, (value w).trans same⟩

theorem IsNumber.read {width n : Nat} {w : List Char} (h : IsNumber width n w) (rest : List Char) :
    number? width 0 (w ++ rest) = some (n, rest) :=
  number?_eq_some_iff.mpr ⟨w, rfl, h⟩

/-- A number begins with a digit. -/
theorem IsNumber.head {width n : Nat} {s : List Char} (h : IsNumber (width + 1) n s) :
    ∃ c rest, s = c :: rest ∧ c.isDigit = true := by
  cases s with
  | nil => cases h.length
  | cons c rest => exact ⟨c, rest, rfl, h.isDigit c List.mem_cons_self⟩

theorem IsNumber.append_ne {width n : Nat} {s : List Char} {c : Char}
    (h : IsNumber (width + 1) n s) (noDigit : c.isDigit = false) (t u : List Char) :
    s ++ t ≠ c :: u := by
  obtain ⟨first, rest, rfl, digit⟩ := h.head
  intro same
  obtain rfl := (List.cons.inj same).1
  exact Bool.noConfusion (digit.symm.trans noDigit)

/-! ## The day of a year -/

/-- What sets the pieces of a date apart. -/
def hyphen (separated : Bool) : List Char := if separated then ['-'] else []

theorem separator?_eq_some_iff {separated : Bool} {s rest : List Char} :
    separator? separated s = some rest ↔ s = hyphen separated ++ rest := by
  cases separated with
  | false => simp [separator?, hyphen]
  | true =>
      unfold separator? hyphen
      rw [if_pos rfl, if_pos rfl]
      split
      · simp
      · rename_i other
        exact iff_of_false nofun fun begins => other rest begins

/-- The day of a year as it is written behind the year, and the text after it. -/
inductive Follows (year : Nat) (separated : Bool) : List Char → List Char → Prop
  | day {month day : Nat} {m d rest : List Char} : IsNumber 2 month m → IsNumber 2 day d →
      IsDay year month day → Follows year separated (m ++ (hyphen separated ++ (d ++ rest))) rest
  | week {week : Nat} {w : List Char} : IsNumber 2 week w → IsWeekDay year week 1 →
      Follows year separated ('W' :: w) []
  | weekDay {week day : Nat} {w d rest : List Char} : IsNumber 2 week w → IsNumber 1 day d →
      IsWeekDay year week day →
      Follows year separated ('W' :: (w ++ (hyphen separated ++ (d ++ rest)))) rest

/-- The month and the day that are read. -/
def monthBehind? (year : Nat) (separated : Bool) (s : List Char) : Option Bool := do
  let (month, rest) ← number? 2 0 s
  let (day, _) ← number? 2 0 (← separator? separated rest)
  return (ofNumbers year month day).toOption.isSome

/-- The week, and the day of it, that are read behind their letter. -/
def weekBehind? (year : Nat) (separated : Bool) (s : List Char) : Option Bool := do
  let (week, rest) ← number? 2 0 s
  if rest.isEmpty then return isWeekDate year week 1
  let (day, _) ← number? 1 0 (← separator? separated rest)
  return isWeekDate year week day

theorem startsWithDay_week {year : Nat} {separated : Bool} {s : List Char} :
    startsWithDay year (hyphen separated ++ 'W' :: s) =
      (weekBehind? year separated s).getD false := by
  cases separated <;> rfl

theorem startsWithDay_month {year : Nat} {separated : Bool} {s : List Char}
    (noHyphen : separated = false → ∀ t, s ≠ '-' :: t) (noWeek : ∀ t, s ≠ 'W' :: t) :
    startsWithDay year (hyphen separated ++ s) = (monthBehind? year separated s).getD false := by
  unfold startsWithDay
  split
  rename_i separated' s' cut
  -- what is left after looking for a hyphen is what stands behind the separator
  have front : (separated, s) = (separated', s') := by
    refine Eq.trans ?_ cut
    cases separated with
    | true => rfl
    | false =>
        rw [hyphen, if_neg Bool.false_ne_true, List.nil_append]
        split
        · exact absurd rfl (noHyphen rfl _)
        · rfl
  cases front
  dsimp only
  split
  · exact absurd rfl (noWeek _)
  · rfl

/-- A month and a day are found where they are written. -/
theorem monthBehind?_eq_some_true_iff {year : Nat} {separated : Bool} {s : List Char} :
    monthBehind? year separated s = some true ↔
      ∃ month day m d rest, s = m ++ (hyphen separated ++ (d ++ rest)) ∧ IsNumber 2 month m ∧
        IsNumber 2 day d ∧ IsDay year month day := by
  simp only [monthBehind?, Option.bind_eq_bind, Option.bind_eq_some_iff, number?_eq_some_iff,
    separator?_eq_some_iff, Option.pure_def, Option.some.injEq, ofNumbers_isSome_iff, Prod.exists]
  constructor
  · rintro ⟨month, _, ⟨m, rfl, isMonth⟩, _, rfl, day, rest, ⟨d, rfl, isDay⟩, real⟩
    exact ⟨month, day, m, d, rest, rfl, isMonth, isDay, real⟩
  · rintro ⟨month, day, m, d, rest, rfl, isMonth, isDay, real⟩
    exact ⟨month, _, ⟨m, rfl, isMonth⟩, _, rfl, day, rest, ⟨d, rfl, isDay⟩, real⟩

/-- A week is found where it is written; it is given by its Monday if nothing is behind it. -/
theorem weekBehind?_eq_some_true_iff {year : Nat} {separated : Bool} {s : List Char} :
    weekBehind? year separated s = some true ↔
      (∃ week, IsNumber 2 week s ∧ IsWeekDay year week 1) ∨
      ∃ week day w d rest, s = w ++ (hyphen separated ++ (d ++ rest)) ∧ IsNumber 2 week w ∧
        IsNumber 1 day d ∧ IsWeekDay year week day := by
  constructor
  · intro h
    obtain ⟨⟨week, t⟩, read, found⟩ := Option.bind_eq_some_iff.mp h
    obtain ⟨w, rfl, isWeek⟩ := number?_eq_some_iff.mp read
    cases t with
    | nil =>
        rw [List.append_nil]
        exact .inl ⟨week, isWeek, isWeekDate_iff.mp (Option.some.inj found)⟩
    | cons c tail =>
        obtain ⟨_, cut, found'⟩ := Option.bind_eq_some_iff.mp found
        obtain ⟨⟨day, rest⟩, read', real⟩ := Option.bind_eq_some_iff.mp found'
        obtain ⟨d, rfl, isDay⟩ := number?_eq_some_iff.mp read'
        rw [separator?_eq_some_iff.mp cut]
        exact .inr ⟨week, day, w, d, rest, rfl, isWeek, isDay,
          isWeekDate_iff.mp (Option.some.inj real)⟩
  · rintro (⟨week, isWeek, real⟩ | ⟨week, day, w, d, rest, rfl, isWeek, isDay, real⟩)
    · have read := isWeek.read []
      rw [List.append_nil] at read
      exact Option.bind_eq_some_iff.mpr ⟨_, read, congrArg some (isWeekDate_iff.mpr real)⟩
    · obtain ⟨c, tail, begins, -⟩ := isDay.head
      have more : ¬ (hyphen separated ++ (d ++ rest)).isEmpty = true := by
        simp [begins]
      refine Option.bind_eq_some_iff.mpr ⟨_, isWeek.read _, ?_⟩
      dsimp only
      rw [if_neg more]
      refine Option.bind_eq_some_iff.mpr ⟨_, separator?_eq_some_iff.mpr rfl, ?_⟩
      exact Option.bind_eq_some_iff.mpr
        ⟨_, isDay.read rest, congrArg some (isWeekDate_iff.mpr real)⟩

theorem getD_false_eq_true {found : Option Bool} :
    found.getD false = true ↔ found = some true := by
  cases found <;> simp

/-- A hyphen is taken for a separator whatever comes after it. -/
theorem exists_hyphen_append (s : List Char) :
    ∃ separated t, s = hyphen separated ++ t ∧ (separated = false → ∀ u, t ≠ '-' :: u) := by
  by_cases begins : ∃ u, s = '-' :: u
  · obtain ⟨u, rfl⟩ := begins
    exact ⟨true, u, rfl, nofun⟩
  · exact ⟨false, s, rfl, fun _ u same => begins ⟨u, same⟩⟩

/-- **The day of a year is found** exactly where it is written. -/
theorem startsWithDay_iff {year : Nat} {s : List Char} :
    startsWithDay year s = true ↔
      ∃ separated t rest, s = hyphen separated ++ t ∧ Follows year separated t rest := by
  constructor
  · intro h
    obtain ⟨separated, t, rfl, noHyphen⟩ := exists_hyphen_append s
    by_cases week : ∃ u, t = 'W' :: u
    · obtain ⟨u, rfl⟩ := week
      rw [startsWithDay_week, getD_false_eq_true, weekBehind?_eq_some_true_iff] at h
      obtain ⟨week, isWeek, real⟩ | ⟨week, day, w, d, rest, rfl, isWeek, isDay, real⟩ := h
      · exact ⟨separated, _, _, rfl, .week isWeek real⟩
      · exact ⟨separated, _, _, rfl, .weekDay isWeek isDay real⟩
    · rw [startsWithDay_month noHyphen fun u same => week ⟨u, same⟩, getD_false_eq_true,
        monthBehind?_eq_some_true_iff] at h
      obtain ⟨month, day, m, d, rest, rfl, isMonth, isDay, real⟩ := h
      exact ⟨separated, _, _, rfl, .day isMonth isDay real⟩
  · rintro ⟨separated, t, rest, rfl, follows⟩
    cases follows with
    | day isMonth isDay real =>
        -- a month begins with a digit, so it is taken neither for a separator nor for a week
        rw [startsWithDay_month (fun _ => isMonth.append_ne rfl _) (isMonth.append_ne rfl _),
          getD_false_eq_true, monthBehind?_eq_some_true_iff]
        exact ⟨_, _, _, _, _, rfl, isMonth, isDay, real⟩
    | week isWeek real =>
        rw [startsWithDay_week, getD_false_eq_true, weekBehind?_eq_some_true_iff]
        exact .inl ⟨_, isWeek, real⟩
    | weekDay isWeek isDay real =>
        rw [startsWithDay_week, getD_false_eq_true, weekBehind?_eq_some_true_iff]
        exact .inr ⟨_, _, _, _, _, rfl, isWeek, isDay, real⟩

/-! ## Lengths -/

theorem utf8ByteSize_ofList_append (s t : List Char) :
    (String.ofList (s ++ t)).utf8ByteSize =
      (String.ofList s).utf8ByteSize + (String.ofList t).utf8ByteSize := by
  rw [String.ofList_append, String.utf8ByteSize_append]

theorem utf8Size_of_isDigit {c : Char} (h : c.isDigit = true) : c.utf8Size = 1 := by
  simp only [Char.isDigit, Bool.and_eq_true, decide_eq_true_eq] at h
  rw [Char.utf8Size_eq_one_iff]
  exact UInt32.le_trans h.2 (by decide)

/-- Digits take a byte each. -/
theorem IsNumber.utf8ByteSize {width n : Nat} {s : List Char} (h : IsNumber width n s) :
    (String.ofList s).utf8ByteSize = width := by
  obtain ⟨rfl, digits, -⟩ := h
  induction s with
  | nil => rfl
  | cons c tail ih =>
      have one := utf8Size_of_isDigit (digits c List.mem_cons_self)
      rw [String.ofList_cons, String.utf8ByteSize_append, String.utf8ByteSize_singleton, one,
        ih (List.forall_mem_cons.mp digits).2, List.length_cons, Nat.add_comm]

theorem utf8ByteSize_hyphen (separated : Bool) :
    (String.ofList (hyphen separated)).utf8ByteSize = if separated then 1 else 0 := by
  cases separated <;> rfl

theorem utf8ByteSize_ofList_eq_zero_iff {s : List Char} :
    (String.ofList s).utf8ByteSize = 0 ↔ s = [] := by
  rw [String.utf8ByteSize_eq_zero_iff, ← String.ofList_nil, String.ofList_inj]

/-- A day takes four bytes and the hyphen in it, unless it is a week. -/
theorem Follows.utf8ByteSize {year : Nat} {separated : Bool} {s rest : List Char}
    (h : Follows year separated s rest) :
    (String.ofList s).utf8ByteSize =
        4 + (if separated then 1 else 0) + (String.ofList rest).utf8ByteSize ∨
      (String.ofList s).utf8ByteSize = 3 ∧ rest = [] := by
  have letter (s : List Char) :
      (String.ofList ('W' :: s)).utf8ByteSize = 1 + (String.ofList s).utf8ByteSize :=
    utf8ByteSize_ofList_append ['W'] s
  cases h with
  | day isMonth isDay _ =>
      left
      rw [utf8ByteSize_ofList_append, utf8ByteSize_ofList_append, utf8ByteSize_ofList_append,
        utf8ByteSize_hyphen, isMonth.utf8ByteSize, isDay.utf8ByteSize]
      omega
  | week isWeek _ =>
      right
      rw [letter, isWeek.utf8ByteSize]
      exact ⟨rfl, rfl⟩
  | weekDay isWeek isDay _ =>
      left
      rw [letter, utf8ByteSize_ofList_append, utf8ByteSize_ofList_append,
        utf8ByteSize_ofList_append, utf8ByteSize_hyphen, isWeek.utf8ByteSize, isDay.utf8ByteSize]
      omega

/-- What may be left unread behind a day. -/
def IsUnread (separated : Bool) (rest : List Char) : Prop :=
  rest = [] ∨ separated = false ∧ (String.ofList rest).utf8ByteSize = 2

/-- The length of a text tells whether all of it is read. -/
theorem Follows.length_iff {year n : Nat} {separated : Bool} {y t rest : List Char}
    (isYear : IsNumber 4 n y) (h : Follows year separated t rest) :
    (String.ofList (y ++ (hyphen separated ++ t))).utf8ByteSize ∈ [7, 8, 10] ↔
      IsUnread separated rest := by
  rw [IsUnread, ← utf8ByteSize_ofList_eq_zero_iff, utf8ByteSize_ofList_append,
    utf8ByteSize_ofList_append, isYear.utf8ByteSize, utf8ByteSize_hyphen]
  simp only [List.mem_cons, List.not_mem_nil, or_false]
  obtain size | ⟨size, rfl⟩ := h.utf8ByteSize
  · rw [size]
    cases separated with
    | true =>
        simp only [if_true, Bool.true_eq_false, false_and, or_false]
        omega
    | false =>
        simp only [Bool.false_eq_true, if_false, true_and]
        omega
  · rw [size]
    cases separated <;> simp

/-- **Days are read** from the texts that consist of the four digits of a year and a day of it, and
of two bytes more where there are no hyphens. -/
theorem isReadable_iff {s : String} :
    isReadable s = true ↔
      ∃ year y separated t rest, s.toList = y ++ (hyphen separated ++ t) ∧ IsNumber 4 year y ∧
        Follows year separated t rest ∧ IsUnread separated rest := by
  have unfolded : isReadable s = true ↔
      s.utf8ByteSize ∈ [7, 8, 10] ∧
        ∃ year t, number? 4 0 s.toList = some (year, t) ∧ startsWithDay year t = true := by
    rw [isReadable, Bool.and_eq_true]
    refine and_congr (by simp [or_assoc]) ?_
    cases number? 4 0 s.toList with
    | none => exact iff_of_false Bool.false_ne_true nofun
    | some read =>
        constructor
        · exact fun h => ⟨read.1, read.2, rfl, h⟩
        · rintro ⟨_, _, ⟨⟩, h⟩
          exact h
  have size {chars : List Char} (split : s.toList = chars) :
      s.utf8ByteSize = (String.ofList chars).utf8ByteSize := by
    rw [← split, String.ofList_toList]
  rw [unfolded]
  constructor
  · rintro ⟨length, year, t, read, found⟩
    obtain ⟨y, split, isYear⟩ := number?_eq_some_iff.mp read
    obtain ⟨separated, t, rest, rfl, follows⟩ := startsWithDay_iff.mp found
    rw [size split, follows.length_iff isYear] at length
    exact ⟨year, y, separated, t, rest, split, isYear, follows, length⟩
  · rintro ⟨year, y, separated, t, rest, split, isYear, follows, unread⟩
    have length := (follows.length_iff isYear).mpr unread
    rw [← size split] at length
    exact ⟨length, year, _, split ▸ isYear.read _,
      startsWithDay_iff.mpr ⟨separated, t, rest, rfl, follows⟩⟩

end FormRules.Date
