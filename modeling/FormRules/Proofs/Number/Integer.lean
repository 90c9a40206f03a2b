/-
# Integers — which texts denote one, and which one

An integer may be written with white space around it, with a sign, with decimal digits of any
script, and with single underscores between these:

    text      white space, sign, digits, white space
    sign      nothing, `+` or `-`
    digits    digit | digit digits | digit _ digits

`Denotes` says this together with the integer, and `readInt_eq_ok_iff` that the reader gives exactly
that integer for exactly these texts.  The reader never looks back, so the whole proof rests on two
facts about characters: white space is neither a sign nor a digit, and digits end where none of
`digit` and `_` comes next.

Of these texts the whole numbers are the plain ones: a sign, and digits that do not begin with a
needless zero (`IsWhole`).
-/
import FormRules.Proofs.Number.Numeral
import Mathlib.Data.Nat.Digits.Defs

namespace FormRules.Numeral

/-! ## The grammar -/

/-- An optional sign, and whether it is a minus. -/
inductive IsSign : Bool → List Char → Prop
  | none : IsSign false []
  | plus : IsSign false ['+']
  | minus : IsSign true ['-']

/-- Digits of any script with single underscores between them, and their values. -/
inductive Digits : List Nat → List Char → Prop
  | last {c : Char} {d : Nat} : Unicode.digitValue? c = some d → Digits [d] [c]
  | next {c : Char} {d : Nat} {ds : List Nat} {s : List Char} :
      Unicode.digitValue? c = some d → Digits ds s → Digits (d :: ds) (c :: s)
  | apart {c : Char} {d : Nat} {ds : List Nat} {s : List Char} :
      Unicode.digitValue? c = some d → Digits ds s → Digits (d :: ds) (c :: '_' :: s)

/-- The integer of a sign and the values of digits, the most significant one first. -/
def signed (negative : Bool) (ds : List Nat) : Int :=
  let n : Nat := Nat.ofDigits 10 ds.reverse
  if negative then -n else n

/-- A text denotes an integer that has not too many digits. -/
def Denotes (text : String) (n : Int) : Prop :=
  ∃ front sign digits back negative ds,
    text.toList = front ++ (sign ++ (digits ++ back)) ∧
      (∀ c ∈ front, isBlank c = true) ∧ IsSign negative sign ∧ Digits ds digits ∧
      (∀ c ∈ back, isBlank c = true) ∧ ds.length ≤ digitLimit ∧ n = signed negative ds

/-! ## Characters -/

theorem digitZeros_not_blank :
    ∀ first ∈ Unicode.digitZeros, 128 ≤ first ∧
      ∀ k < 10, Unicode.inRuns Unicode.blankRuns (first + k - 128) = false := by
  decide +kernel

theorem not_isBlank_of_digitValue? {c : Char} {d : Nat} (h : Unicode.digitValue? c = some d) :
    isBlank c = false := by
  unfold Unicode.digitValue? at h
  by_cases ascii : c.toNat < 128
  · rw [if_pos ascii] at h
    by_cases digit : c.isDigit = true
    · exact not_isBlank_of_isDigit digit
    · rw [if_neg digit] at h
      cases h
  · rw [if_neg ascii] at h
    obtain ⟨first, found, -⟩ := Option.map_eq_some_iff.mp h
    have range := List.find?_some found
    simp only [Bool.and_eq_true, decide_eq_true_eq] at range
    obtain ⟨-, free⟩ := digitZeros_not_blank first (List.mem_of_find?_eq_some found)
    have outside := free (c.toNat - first) (by omega)
    rw [isBlank, if_neg ascii, Unicode.isBlank, Unicode.hasProperty, if_neg ascii]
    rwa [show first + (c.toNat - first) - 128 = c.toNat - 128 by omega] at outside

theorem digitValue?_of_isBlank {c : Char} (h : isBlank c = true) :
    Unicode.digitValue? c = none := by
  cases value : Unicode.digitValue? c with
  | none => rfl
  | some d => exact Bool.noConfusion (h.symm.trans (not_isBlank_of_digitValue? value))

/-- What ends digits: the end of the text, or a character that is no part of a number. -/
def EndsDigits (s : List Char) : Prop :=
  ∀ c ∈ s.head?, c ≠ '_' ∧ Unicode.digitValue? c = none

theorem endsDigits_of_blank {s : List Char} (h : ∀ c ∈ s, isBlank c = true) : EndsDigits s := by
  intro c first
  have blank := h c (List.mem_of_mem_head? first)
  refine ⟨?_, digitValue?_of_isBlank blank⟩
  rintro rfl
  cases blank

/-! ## Digits -/

/-- Digits begin with a digit. -/
theorem Digits.head {ds : List Nat} {s : List Char} (h : Digits ds s) :
    ∃ c d rest, s = c :: rest ∧ Unicode.digitValue? c = some d := by
  cases h with
  | last value => exact ⟨_, _, _, rfl, value⟩
  | next value _ => exact ⟨_, _, _, rfl, value⟩
  | apart value _ => exact ⟨_, _, _, rfl, value⟩

theorem ne_underscore_of_digitValue? {c : Char} {d : Nat} (h : Unicode.digitValue? c = some d) :
    c ≠ '_' := by
  rintro rfl
  cases h

theorem digitsFrom_cons {c : Char} {d : Nat} (h : Unicode.digitValue? c = some d)
    (afterDigit : Bool) (rest : List Char) :
    digitsFrom afterDigit (c :: rest) =
      (digitsFrom true rest).map fun (ds, tail) => (d :: ds, tail) := by
  rw [digitsFrom, if_neg (ne_underscore_of_digitValue? h), h]

theorem digitsFrom_underscore (rest : List Char) :
    digitsFrom true ('_' :: rest) = digitsFrom false rest := by
  rw [digitsFrom, if_pos rfl, if_pos rfl]

theorem digitsFrom_of_ends {s : List Char} (h : EndsDigits s) :
    digitsFrom true s = some ([], s) := by
  cases s with
  | nil => rfl
  | cons c rest =>
      obtain ⟨noUnderscore, noDigit⟩ := h c rfl
      rw [digitsFrom, if_neg noUnderscore, noDigit]
      rfl

/-- Digits are read to their end. -/
theorem digitsFrom_append {ds : List Nat} {s back : List Char} (h : Digits ds s)
    (ends : EndsDigits back) (afterDigit : Bool) :
    digitsFrom afterDigit (s ++ back) = some (ds, back) := by
  induction h generalizing afterDigit with
  | last value =>
      rw [List.singleton_append, digitsFrom_cons value, digitsFrom_of_ends ends]
      rfl
  | next value _ ih =>
      rw [List.cons_append, digitsFrom_cons value, ih]
      rfl
  | apart value _ ih =>
      rw [List.cons_append, digitsFrom_cons value, List.cons_append, digitsFrom_underscore, ih]
      rfl

/-- What may be read behind a digit, or at the start of a number. -/
inductive Continues : Bool → List Nat → List Char → Prop
  | ended : Continues true [] []
  | digits {afterDigit : Bool} {ds : List Nat} {s : List Char} :
      Digits ds s → Continues afterDigit ds s
  | apart {ds : List Nat} {s : List Char} : Digits ds s → Continues true ds ('_' :: s)

theorem Continues.extend {c : Char} {d : Nat} {ds : List Nat} {s : List Char}
    (value : Unicode.digitValue? c = some d) (h : Continues true ds s) :
    Digits (d :: ds) (c :: s) := by
  cases h with
  | ended => exact .last value
  | digits more => exact .next value more
  | apart more => exact .apart value more

/-- What is read is in front of the rest. -/
theorem continues_of_digitsFrom {afterDigit : Bool} {s rest : List Char} {ds : List Nat}
    (h : digitsFrom afterDigit s = some (ds, rest)) :
    ∃ digits, s = digits ++ rest ∧ Continues afterDigit ds digits := by
  induction s generalizing afterDigit ds with
  | nil =>
      cases afterDigit with
      | true =>
          cases h
          exact ⟨[], rfl, .ended⟩
      | false => cases h
  | cons c tail ih =>
      by_cases underscore : c = '_'
      · subst underscore
        cases afterDigit with
        | true =>
            rw [digitsFrom_underscore] at h
            obtain ⟨digits, rfl, more⟩ := ih h
            cases more with
            | digits more => exact ⟨'_' :: digits, rfl, .apart more⟩
        | false => cases h
      · cases value : Unicode.digitValue? c with
        | some d =>
            rw [digitsFrom_cons value] at h
            obtain ⟨⟨ds', rest'⟩, read, same⟩ := Option.map_eq_some_iff.mp h
            cases same
            obtain ⟨digits, rfl, more⟩ := ih read
            exact ⟨c :: digits, rfl, .digits (more.extend value)⟩
        | none =>
            rw [digitsFrom, if_neg underscore, value] at h
            cases afterDigit with
            | true =>
                cases h
                exact ⟨[], rfl, .ended⟩
            | false => cases h

/-! ## Signs -/

theorem exists_isSign_of_splitSign {s body : List Char} {negative : Bool}
    (h : splitSign s = (negative, body)) : ∃ sign, IsSign negative sign ∧ s = sign ++ body := by
  unfold splitSign at h
  split at h
  · cases h
    exact ⟨['-'], .minus, rfl⟩
  · cases h
    exact ⟨['+'], .plus, rfl⟩
  · cases h
    exact ⟨[], .none, rfl⟩

/-- A sign is taken off whatever does not begin with another one. -/
theorem splitSign_append {negative : Bool} {sign body : List Char} (h : IsSign negative sign)
    (unsigned : ∀ c ∈ body.head?, c ≠ '-' ∧ c ≠ '+') :
    splitSign (sign ++ body) = (negative, body) := by
  cases h with
  | plus => rfl
  | minus => rfl
  | none =>
      rw [List.nil_append]
      unfold splitSign
      split
      · exact absurd rfl (unsigned '-' rfl).1
      · exact absurd rfl (unsigned '+' rfl).2
      · rfl

/-! ## Integers -/

/-- The value of digits, whichever end they are read from. -/
theorem ofDigits_eq (ds : List Nat) : ofDigits ds = Nat.ofDigits 10 ds.reverse := by
  have step : (fun (n d : Nat) => 10 * n + d) = fun n d => d + 10 * n := by
    funext n d
    exact Nat.add_comm _ _
  rw [Nat.ofDigits_eq_foldr, List.foldr_reverse, ofDigits, step]
  rfl

/-- What becomes of digits that were found. -/
theorem readInt_of_digitsFrom {text : String} {negative : Bool} {body rest : List Char}
    {ds : List Nat} (split : splitSign (text.toList.dropWhile isBlank) = (negative, body))
    (read : digitsFrom false body = some (ds, rest)) :
    readInt text =
      if digitLimit < ds.length then .error (.tooManyDigits ds.length)
      else if rest.all isBlank then .ok (signed negative ds)
      else .error (.notInteger text) := by
  unfold readInt
  rw [split]
  dsimp only
  rw [read]
  dsimp only
  rw [ofDigits_eq, signed]

theorem readInt_of_denotes {text : String} {n : Int} (h : Denotes text n) :
    readInt text = .ok n := by
  obtain ⟨front, sign, digits, back, negative, ds, whole, before, signs, value, behind, short,
    rfl⟩ := h
  obtain ⟨c, d, rest, begins, digit⟩ := value.head
  have notBlank : isBlank c = false := not_isBlank_of_digitValue? digit
  have unsigned : ∀ c ∈ (digits ++ back).head?, c ≠ '-' ∧ c ≠ '+' := by
    rw [begins]
    rintro _ ⟨⟩
    constructor
    · rintro rfl
      cases digit
    · rintro rfl
      cases digit
  have dropped : text.toList.dropWhile isBlank = sign ++ (digits ++ back) := by
    rw [whole, List.dropWhile_append_of_pos before, begins]
    cases signs with
    | none => exact List.dropWhile_cons_of_neg (by simp [notBlank])
    | plus => rfl
    | minus => rfl
  have split : splitSign (text.toList.dropWhile isBlank) = (negative, digits ++ back) := by
    rw [dropped]
    exact splitSign_append signs unsigned
  have read := digitsFrom_append value (endsDigits_of_blank behind) false
  rw [readInt_of_digitsFrom split read, if_neg (Nat.not_lt.mpr short),
    if_pos (List.all_eq_true.mpr behind)]

theorem denotes_of_readInt {text : String} {n : Int} (h : readInt text = .ok n) :
    Denotes text n := by
  cases split : splitSign (text.toList.dropWhile isBlank) with
  | mk negative body =>
      cases read : digitsFrom false body with
      | none =>
          unfold readInt at h
          rw [split] at h
          dsimp only at h
          rw [read] at h
          cases h
      | some found =>
          obtain ⟨ds, back⟩ := found
          rw [readInt_of_digitsFrom split read] at h
          split at h
          · cases h
          · rename_i short
            split at h
            · rename_i behind
              cases h
              obtain ⟨sign, signs, signed⟩ := exists_isSign_of_splitSign split
              obtain ⟨digits, rfl, value⟩ := continues_of_digitsFrom read
              cases value with
              | digits value =>
                  refine ⟨text.toList.takeWhile isBlank, sign, digits, back, negative, ds, ?_, ?_,
                    signs, value, List.all_eq_true.mp behind, Nat.not_lt.mp short, rfl⟩
                  · rw [← signed, List.takeWhile_append_dropWhile]
                  · exact List.all_eq_true.mp List.all_takeWhile
            · cases h

/-- **Integers are read** exactly from the texts that denote them. -/
theorem readInt_eq_ok_iff {text : String} {n : Int} : readInt text = .ok n ↔ Denotes text n :=
  ⟨denotes_of_readInt, readInt_of_denotes⟩

/-! ## Whole numbers -/

/-- A zero, or plain digits that do not begin with one. -/
def IsUnpadded (digits : List Char) : Prop :=
  digits = ['0'] ∨ ∃ first rest, digits = first :: rest ∧ first.isDigit = true ∧ first ≠ '0' ∧
    ∀ c ∈ rest, c.isDigit = true

/-- The value of a plain digit. -/
def plainValue (c : Char) : Nat := c.toNat - '0'.toNat

/-- A whole number: an optional sign and unpadded digits, and the integer that they denote. -/
def IsWhole (s : List Char) (n : Int) : Prop :=
  ∃ sign digits negative, s = sign ++ digits ∧ IsSign negative sign ∧ IsUnpadded digits ∧
    n = signed negative (digits.map plainValue)

theorem IsUnpadded.ne_nil {digits : List Char} (h : IsUnpadded digits) : digits ≠ [] := by
  obtain rfl | ⟨first, rest, rfl, -, -, -⟩ := h
  · exact List.cons_ne_nil _ _
  · exact List.cons_ne_nil _ _

theorem IsUnpadded.isDigit {digits : List Char} (h : IsUnpadded digits) :
    ∀ c ∈ digits, c.isDigit = true := by
  obtain rfl | ⟨first, rest, rfl, digit, -, later⟩ := h
  · intro c hc
    rw [List.mem_singleton.mp hc]
    rfl
  · exact List.forall_mem_cons.mpr ⟨digit, later⟩

theorem digitValue?_of_isDigit {c : Char} (h : c.isDigit = true) :
    Unicode.digitValue? c = some (plainValue c) := by
  have range := toNat_of_isDigit h
  rw [Unicode.digitValue?, if_pos (by omega), if_pos h]
  rfl

/-- Plain digits are digits. -/
theorem digits_of_isDigit {s : List Char} (some : s ≠ []) (h : ∀ c ∈ s, c.isDigit = true) :
    Digits (s.map plainValue) s := by
  induction s with
  | nil => exact absurd rfl some
  | cons c rest ih =>
      obtain ⟨digit, later⟩ := List.forall_mem_cons.mp h
      cases rest with
      | nil => exact .last (digitValue?_of_isDigit digit)
      | cons c' rest' =>
          exact .next (digitValue?_of_isDigit digit) (ih (List.cons_ne_nil _ _) later)

theorem digitCount_of_isSign {negative : Bool} {sign : List Char} (h : IsSign negative sign) :
    digitCount sign = 0 := by
  cases h <;> rfl

/-- A whole number that is not too long denotes its integer. -/
theorem IsWhole.denotes {text : String} {n : Int} (h : IsWhole text.toList n)
    (short : digitCount text.toList ≤ digitLimit) : Denotes text n := by
  obtain ⟨sign, digits, negative, whole, signs, unpadded, rfl⟩ := h
  have count : digitCount text.toList = digits.length := by
    have none : sign.countP Char.isDigit = 0 := digitCount_of_isSign signs
    rw [digitCount, whole, List.countP_append, none, Nat.zero_add,
      List.countP_eq_length.mpr unpadded.isDigit]
  have nothing : ∀ c ∈ ([] : List Char), isBlank c = true := List.forall_mem_nil _
  refine ⟨[], sign, digits, [], negative, digits.map plainValue, ?_, nothing, signs,
    digits_of_isDigit unpadded.ne_nil unpadded.isDigit, nothing, ?_, rfl⟩
  · rw [whole, List.append_nil, List.nil_append]
  · rw [List.length_map, ← count]
    exact short

end FormRules.Numeral
