/-
# Standard rules — what a text can do to them

Whatever a text is, a standard rule with accepted parameters gives a result, with one exception.
What a test converts is either a parameter, which its check has read, or the text itself:

    isFloat             a text that is no number does not pass
    isDate              a text that is no date does not pass
    matches             the pattern is read again, now with the flags
    isInt               a number of more than 4300 digits is not read

So a failure needs the rule `isInt` and a whole number that is too long (`exists_testText`).  Other
values are written as a text first, which is possible unless they hold an integer that is too long
to be written (`exists_test_iff`).
-/
import FormRules.Proofs.Predicate.Checks
import FormRules.Proofs.Predicate.Formats

namespace FormRules

/-- A whole number with more digits than can be read. -/
def IsLongNumber (text : String) : Prop :=
  Predicate.intPattern.fullMatches text.toList = true ∧
    Numeral.digitLimit < Numeral.digitCount text.toList

instance (text : String) : Decidable (IsLongNumber text) := inferInstanceAs (Decidable (_ ∧ _))

theorem digitCount_ones (n : Nat) :
    Numeral.digitCount (String.ofList (List.replicate n '1')).toList = n := by
  rw [String.toList_ofList, Numeral.digitCount, List.countP_replicate]
  exact if_pos rfl

theorem isLongNumber_ones {n : Nat} (h : Numeral.digitLimit < n) :
    IsLongNumber (String.ofList (List.replicate n '1')) := by
  refine ⟨(Pattern.fullMatches_iff Predicate.isPlain_intPattern _).mpr ?_, by rwa [digitCount_ones]⟩
  obtain ⟨m, rfl⟩ : ∃ m, n = m + 1 := Nat.exists_eq_succ_of_ne_zero (Nat.ne_zero_of_lt h)
  rw [String.toList_ofList]
  have ones : List.replicate m '1' ∈
      (Predicate.many (Predicate.oneOf [Predicate.digits])).language := by
    rw [Pattern.language_many]
    refine Pattern.mem_kstar_char_iff.mpr fun c hc => ?_
    rw [List.eq_of_mem_replicate hc]
    rfl
  refine ⟨[], ?_, _, .inr ⟨['1'], ⟨'1', rfl, rfl⟩, _, ones, rfl⟩, rfl⟩
  rw [Predicate.sign, Pattern.language_optional]
  exact .inl rfl

namespace StandardRule

section Bounds

variable {α : Type} {read : String → Outcome α} {lowOk highOk : α → Bool}

/-- A bound that can be read, or none. -/
def Readable (read : String → Outcome α) (bound : Option String) : Prop :=
  ∀ b ∈ bound, ∃ a, read b = .ok a

theorem readable_none : Readable read none := nofun

theorem readable_of_mem {params : List String} (h : ∀ p ∈ params, ∃ a, read p = .ok a)
    {bound : String} (hbound : bound ∈ params) : Readable read (some bound) := by
  rintro _ ⟨⟩
  exact h bound hbound

theorem exists_meets {ok : α → Bool} {bound : Option String} (h : Readable read bound) :
    ∃ b, meets read ok bound = .ok b := by
  cases bound with
  | none => exact ⟨true, rfl⟩
  | some bound =>
      obtain ⟨a, readable⟩ := h bound rfl
      exact ⟨ok a, by rw [meets, readable]; rfl⟩

theorem exists_within {low high : Option String} (hlow : Readable read low)
    (hhigh : Readable read high) : ∃ answer, within read lowOk highOk low high = .ok answer := by
  obtain ⟨above, met⟩ : ∃ b, meets read lowOk low = .ok b := exists_meets hlow
  obtain ⟨below, met'⟩ : ∃ b, meets read highOk high = .ok b := exists_meets hhigh
  rw [within, met, ok_bind, met', ok_bind]
  cases above
  · exact ⟨_, rfl⟩
  · cases below <;> exact ⟨_, rfl⟩

end Bounds

/-! ## Numbers -/

variable {text : String} {low high : Option String}

theorem exists_testInt (hlow : Readable readInteger low) (hhigh : Readable readInteger high)
    (short : ¬ IsLongNumber text) :
    ∃ answer, testInt text low high = .ok answer := by
  unfold testInt
  split
  · rename_i isNumber
    have read := Numeral.readInt_of_isPlain (Predicate.isPlain_of_intPattern isNumber)
    rw [if_neg fun long => short ⟨isNumber, long⟩] at read
    obtain ⟨n, read⟩ := read
    rw [readInteger, read]
    exact exists_within hlow hhigh
  · exact ⟨_, rfl⟩

theorem testInt_of_isLongNumber (h : IsLongNumber text) (low high : Option String) :
    testInt text low high =
      .error (.numeral (.tooManyDigits (Numeral.digitCount text.toList))) := by
  obtain ⟨isNumber, long⟩ := h
  have read := Numeral.readInt_of_isPlain (Predicate.isPlain_of_intPattern isNumber)
  rw [if_pos long] at read
  rw [testInt, if_pos isNumber, readInteger, read]
  rfl

theorem exists_testFloat (hlow : Readable readDecimal low) (hhigh : Readable readDecimal high) :
    ∃ answer, testFloat text low high = .ok answer := by
  unfold testFloat
  split
  · split
    · exact ⟨_, rfl⟩
    · exact exists_within hlow hhigh
  · exact ⟨_, rfl⟩

theorem exists_testLength (hlow : Readable readInteger low) (hhigh : Readable readInteger high) :
    ∃ answer, testLength text low high = .ok answer :=
  exists_within hlow hhigh

/-! ## Patterns -/

/-- The flags that letters ask for change how characters are compared only. -/
theorem none_alike_flagsOf (letters : String) : Pattern.Flags.none.Alike (flagsOf letters) :=
  ⟨rfl, rfl, rfl, rfl⟩

theorem exists_testMatching {pattern : String} (h : ∃ ts, Pattern.parse pattern .none = .ok ts)
    (flags : String) : ∃ answer, testMatching text pattern flags = .ok answer := by
  obtain ⟨ts, read⟩ := h
  obtain ⟨us, read⟩ := Pattern.parse_isOk_of_alike (none_alike_flagsOf flags) read
  exact ⟨_, by rw [testMatching, termsOf, read]; rfl⟩

/-! ## Tests -/

/-- A text is tested as it is. -/
theorem test_str (r : StandardRule) (text : String) (params : List String) :
    r.test (.str text) params = testText text r params := by
  have tested : r.test (.str text) params = (do
      if r.takes params.length then (Value.str text).writable
      testText text r params) := by
    cases r <;> rfl
  rw [tested]
  split <;> rfl

variable {r : StandardRule} {params : List String}

theorem bounds_cases (h : params.length ≤ 2) :
    params = [] ∨ (∃ low, params = [low]) ∨ ∃ low high, params = [low, high] := by
  match params, h with
  | [], _ => exact .inl rfl
  | [low], _ => exact .inr (.inl ⟨low, rfl⟩)
  | [low, high], _ => exact .inr (.inr ⟨low, high, rfl⟩)

/-- **A standard rule on a text.**  With accepted parameters it gives a result, unless a whole
number has to be read that is too long. -/
theorem exists_testText (h : r.Accepts params) (text : String)
    (short : r = isInt → ¬ IsLongNumber text) : ∃ answer, testText text r params = .ok answer := by
  obtain ⟨count, integers, decimals, pattern⟩ := h
  cases r with
  | isInt =>
      have readable {bound : String} (h : bound ∈ params) := readable_of_mem (integers rfl) h
      rcases bounds_cases (of_decide_eq_true count) with rfl | ⟨low, rfl⟩ | ⟨low, high, rfl⟩
      · exact exists_testInt readable_none readable_none (short rfl)
      · exact exists_testInt (readable (by simp)) readable_none (short rfl)
      · exact exists_testInt (readable (by simp)) (readable (by simp)) (short rfl)
  | isFloat =>
      have readable {bound : String} (h : bound ∈ params) := readable_of_mem (decimals rfl) h
      rcases bounds_cases (of_decide_eq_true count) with rfl | ⟨low, rfl⟩ | ⟨low, high, rfl⟩
      · exact exists_testFloat readable_none readable_none
      · exact exists_testFloat (readable (by simp)) readable_none
      · exact exists_testFloat (readable (by simp)) (readable (by simp))
  | isLength =>
      have zero : Readable readInteger (some "0") := by
        rintro _ ⟨⟩
        exact ⟨0, rfl⟩
      have readable {bound : String} (h : bound ∈ params) := readable_of_mem (integers rfl) h
      rcases bounds_cases (of_decide_eq_true count) with rfl | ⟨low, rfl⟩ | ⟨low, high, rfl⟩
      · exact exists_testLength zero readable_none
      · exact exists_testLength (readable (by simp)) readable_none
      · exact exists_testLength (readable (by simp)) (readable (by simp))
  | minLength =>
      obtain ⟨low, rfl⟩ := List.length_eq_one_iff.mp (eq_of_beq count)
      exact exists_testLength (readable_of_mem (integers rfl) List.mem_cons_self) readable_none
  | maxLength =>
      obtain ⟨high, rfl⟩ := List.length_eq_one_iff.mp (eq_of_beq count)
      exact exists_testLength readable_none (readable_of_mem (integers rfl) List.mem_cons_self)
  | matching =>
      have few : params.length = 1 ∨ params.length = 2 := by simpa [takes] using count
      rcases few with one | two
      · obtain ⟨pattern', rfl⟩ := List.length_eq_one_iff.mp one
        exact exists_testMatching (pattern rfl pattern' rfl) _
      · obtain ⟨pattern', flags, rfl⟩ := List.length_eq_two.mp two
        exact exists_testMatching (pattern rfl pattern' rfl) _
  | isIn => exact ⟨_, rfl⟩
  | equals | contains =>
      obtain ⟨other, rfl⟩ := List.length_eq_one_iff.mp (eq_of_beq count)
      exact ⟨_, rfl⟩
  | _ =>
      obtain rfl : params = [] := List.length_eq_zero_iff.mp (eq_of_beq count)
      exact ⟨_, rfl⟩

theorem testText_isInt_of_isLongNumber (h : isInt.Accepts params) {text : String}
    (long : IsLongNumber text) :
    testText text isInt params =
      .error (.numeral (.tooManyDigits (Numeral.digitCount text.toList))) := by
  rcases bounds_cases (of_decide_eq_true h.count) with rfl | ⟨low, rfl⟩ | ⟨low, high, rfl⟩
  · exact testInt_of_isLongNumber long _ _
  · exact testInt_of_isLongNumber long _ _
  · exact testInt_of_isLongNumber long _ _

/-! ## Values -/

/-- The flag of a checkbox is what it is required to be, and everything else is tested as a text. -/
theorem test_cases (h : r.Accepts params) (v : Value) :
    (r = required ∧ ∃ b, v = .bool b ∧ r.test v params = .ok (.bool b)) ∨
      r.test v params = (do v.writable; testText v.entryText r params) := by
  have written : (do
      if r.takes params.length then v.writable
      testText v.entryText r params : Outcome Value) =
        (do v.writable; testText v.entryText r params) := by
    rw [if_pos h.count]
  unfold test
  split
  · exact .inl ⟨rfl, _, rfl, rfl⟩
  · exact .inr written

theorem writable_eq (v : Value) :
    v.writable = if v.holdsLongInteger then .error .longInteger else .ok () := rfl

/-- **When a standard rule gives a result**: on a value that can be written, unless a whole number
has to be read that is too long. -/
theorem exists_test_iff (h : r.Accepts params) (v : Value) :
    (∃ answer, r.test v params = .ok answer) ↔
      v.holdsLongInteger = false ∧ (r = isInt → ¬ IsLongNumber v.entryText) := by
  rcases test_cases h v with ⟨rfl, b, rfl, tested⟩ | tested
  · exact iff_of_true ⟨_, tested⟩ ⟨rfl, nofun⟩
  · rw [tested, writable_eq]
    cases long : v.holdsLongInteger with
    | true => exact iff_of_false (by rw [if_pos rfl, error_bind]; exact nofun) nofun
    | false =>
        rw [if_neg Bool.false_ne_true, ok_bind]
        constructor
        · rintro ⟨answer, answered⟩
          refine ⟨rfl, ?_⟩
          rintro rfl number
          cases (testText_isInt_of_isLongNumber h number).symm.trans answered
        · exact fun ⟨_, short⟩ => exists_testText h v.entryText short

/-- A standard rule with accepted parameters never blames the configuration. -/
theorem blameless_test (h : r.Accepts params) (v : Value) : (r.test v params).Blameless := by
  rcases test_cases h v with ⟨-, b, -, tested⟩ | tested
  · rw [tested]
    exact blameless_ok (Value.bool b)
  · rw [tested, writable_eq]
    refine blameless_bind ?_ fun _ => ?_
    · split
      · exact blameless_error nofun
      · exact blameless_ok ()
    · by_cases short : r = isInt → ¬ IsLongNumber v.entryText
      · obtain ⟨answer, answered⟩ := exists_testText h v.entryText short
        rw [answered]
        exact blameless_ok answer
      · obtain ⟨rfl, long⟩ := Classical.not_imp.mp short
        rw [testText_isInt_of_isLongNumber h (not_not.mp long)]
        exact blameless_error nofun

end StandardRule

end FormRules
