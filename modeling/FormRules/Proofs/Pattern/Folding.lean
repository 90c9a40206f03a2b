/-
# Folding — which characters are a given letter in any case

Where case is ignored a character passes for a letter if its lower-case form is that letter or has
the same upper-case form.  To know all these characters, three tables have to be read backwards:

    lower case in ASCII         the letter and its capital
    lower case beyond ASCII     what `unfolded` lists
    `kinOf`                     the same group, since being kin is symmetric

So each letter of `https` may be written as itself or as its capital, and nothing else passes for it
but a long s for the last one (`accepts_caseless_iff`).
-/
import FormRules.Proofs.Pattern.Language
import Mathlib.Data.Bool.AllAny

namespace FormRules.Unicode

/-! ## Lower-case forms -/

theorem toNat_ofNat_of_pos {n : Nat} (h : 0 < (Char.ofNat n).toNat) : (Char.ofNat n).toNat = n := by
  by_cases valid : n.isValidChar
  · have made : Char.ofNat n = Char.ofNatAux n valid := dif_pos valid
    rw [made]
    rfl
  · have made : Char.ofNat n = Char.ofNat 0xd800 := dif_neg valid
    rw [made] at h
    exact absurd h (by decide)

theorem mem_unfolded_of_move? {s : CaseStretch} (hs : s ∈ lowerStretches) {m n : Nat} (hn : 0 < n)
    (moved : s.move? m = some n) : m ∈ unfolded n := by
  have back : ((n : Int) - s.offset).toNat = m := by
    unfold CaseStretch.move? at moved
    split at moved
    · cases moved
      omega
    · cases moved
  refine List.mem_append_left _ (List.mem_filterMap.mpr ⟨s, hs, ?_⟩)
  dsimp only
  rw [back, if_pos moved]

theorem mem_unfolded_of_lookup {m n : Nat} {ns : List Nat}
    (h : lowerSpecials.lookup m = some (n :: ns)) : m ∈ unfolded n := by
  obtain ⟨before, after, table, -⟩ := List.lookup_eq_some_iff.mp h
  have listed : (m, n :: ns) ∈ lowerSpecials := by
    rw [table]
    exact List.mem_append_right _ List.mem_cons_self
  exact List.mem_append_right _ (List.mem_filterMap.mpr ⟨_, listed, if_pos rfl⟩)

/-- **Beyond ASCII** a character is its own lower-case form, or it is listed for that form. -/
theorem eq_or_mem_unfolded {c : Char} (h : 128 ≤ c.toNat) (hpos : 0 < (foldChar c).toNat) :
    foldChar c = c ∨ c.toNat ∈ unfolded (foldChar c).toNat := by
  have folded : foldChar c = (mapCase Char.toLower lowerSpecials lowerStretches c).headD c := rfl
  rw [mapCase, if_neg (Nat.not_lt.mpr h)] at folded
  cases special : lowerSpecials.lookup c.toNat with
  | some ns =>
      rw [special] at folded
      cases ns with
      | nil => exact .inl folded
      | cons n ns =>
          have first : foldChar c = Char.ofNat n := folded
          rw [first] at hpos ⊢
          rw [toNat_ofNat_of_pos hpos]
          exact .inr (mem_unfolded_of_lookup special)
  | none =>
      rw [special] at folded
      cases moved : lowerStretches.findSome? (·.move? c.toNat) with
      | some n =>
          rw [moved] at folded
          have first : foldChar c = Char.ofNat n := folded
          obtain ⟨s, hs, moved⟩ := List.exists_of_findSome?_eq_some moved
          rw [first] at hpos ⊢
          have code := toNat_ofNat_of_pos hpos
          rw [code] at hpos ⊢
          exact .inr (mem_unfolded_of_move? hs hpos moved)
      | none =>
          rw [moved] at folded
          exact .inl folded

/-! ## Letters -/

/-- The letters of schemes in lower case, and the one that has the same capital as one of them. -/
def schemeLetters : List Char := ['h', 't', 'p', 's', 'ſ']

theorem unfolded_of_schemeLetters :
    ∀ e ∈ schemeLetters, 0 < e.toNat ∧ unfolded e.toNat = [] :=
  List.all_iff_forall_prop.mp (by decide +kernel)

theorem foldChar_of_schemeLetters :
    ∀ e ∈ schemeLetters, foldChar e = e ∧ foldChar e.toUpper = e :=
  List.all_iff_forall_prop.mp (by decide +kernel)

theorem toLower_of_schemeLetters :
    ∀ e ∈ schemeLetters, ∀ n < 128, (Char.ofNat n).toLower = e →
      Char.ofNat n = e ∨ Char.ofNat n = e.toUpper :=
  List.all_iff_forall_prop.mp (by decide +kernel)

/-- Such a letter is the lower-case form of itself and its capital. -/
theorem foldChar_eq_iff {c e : Char} (he : e ∈ schemeLetters) :
    foldChar c = e ↔ c = e ∨ c = e.toUpper := by
  constructor
  · rintro rfl
    by_cases ascii : c.toNat < 128
    · have lower : c.toLower = foldChar c := by
        rw [foldChar, lowerChar_of_ascii ascii]
        rfl
      have either := toLower_of_schemeLetters _ he c.toNat ascii
      rw [Char.ofNat_toNat] at either
      exact either lower
    · obtain ⟨positive, none⟩ := unfolded_of_schemeLetters _ he
      rcases eq_or_mem_unfolded (Nat.not_lt.mp ascii) positive with same | listed
      · exact .inl same.symm
      · rw [none] at listed
        cases listed
  · rintro (rfl | rfl)
    · exact (foldChar_of_schemeLetters _ he).1
    · exact (foldChar_of_schemeLetters _ he).2

end FormRules.Unicode

namespace FormRules.Pattern

/-! ## Kin -/

theorem caseKin_disjoint :
    ∀ group ∈ caseKin, ∀ group' ∈ caseKin, ∀ n ∈ group, n ∈ group' → group = group' := by
  decide

/-- Being kin is symmetric, since no code point is in two groups. -/
theorem mem_kinOf_comm {m n : Nat} (h : m ∈ kinOf n) : n ∈ kinOf m := by
  unfold kinOf at h ⊢
  -- A code point in no group is kin to itself alone.
  cases found : caseKin.find? (·.contains n) with
  | none =>
      rw [found] at h
      obtain rfl : m = n := List.mem_singleton.mp h
      rw [found]
      exact h
  | some group =>
      rw [found] at h
      have member : m ∈ group := h
      have itself := List.find?_some found
      cases found' : caseKin.find? (·.contains m) with
      | none =>
          have missing := List.find?_eq_none.mp found' group (List.mem_of_find?_eq_some found)
          exact absurd (List.contains_iff_mem.mpr member) missing
      | some group' =>
          have other := List.find?_some found'
          have same := caseKin_disjoint group (List.mem_of_find?_eq_some found) group'
            (List.mem_of_find?_eq_some found') m member (List.contains_iff_mem.mp other)
          exact List.contains_iff_mem.mp (same ▸ itself)

/-- A letter in any case is a character whose lower-case form is kin to it. -/
theorem accepts_single_full_iff {c d : Char} (moves : Folding.full.moves c.toNat = true)
    (key : Folding.full.keyOf c.toNat = c.toNat) :
    (CharTest.single false c.toNat .full).accepts d = true ↔
      Text.codeOf (Unicode.foldChar d) ∈ kinOf c.toNat := by
  have tested : (CharTest.single false c.toNat .full).accepts d =
      (kinOf (Text.codeOf (Unicode.foldChar d))).contains c.toNat := by
    rw [CharTest.accepts, if_pos moves, key, Bool.bne_false]
    rfl
  rw [tested, List.contains_iff_mem]
  exact ⟨mem_kinOf_comm, mem_kinOf_comm⟩

end FormRules.Pattern

namespace FormRules.Predicate

open Pattern

/-! ## Spellings -/

/-- The letters and marks of schemes. -/
def schemeChars : List Char := ['h', 't', 'p', 's', ':', '/']

/-- How a letter may be written where case is ignored. -/
def spellings (c : Char) : List Char := if c = 's' then ['s', 'S', 'ſ'] else [c, c.toUpper]

/-- A letter is accepted by the lower-case forms that are kin to it. -/
theorem accepts_letter_iff {c : Char} (forms : List Char)
    (moves : Folding.full.moves c.toNat = true)
    (key : Folding.full.keyOf c.toNat = c.toNat) (kin : kinOf c.toNat = forms.map Char.toNat)
    (letters : ∀ e ∈ forms, e ∈ Unicode.schemeLetters) (d : Char) :
    (CharTest.single false c.toNat .full).accepts d = true ↔
      ∃ e ∈ forms, d = e ∨ d = e.toUpper := by
  have small : ∀ e ∈ Unicode.schemeLetters, e.toNat < 0xd800 :=
    List.all_iff_forall_prop.mp (by decide)
  rw [accepts_single_full_iff moves key, kin, List.mem_map]
  refine exists_congr fun e => and_congr_right fun he => ?_
  rw [eq_comm, codeOf_eq_iff (small e (letters e he)), Unicode.foldChar_eq_iff (letters e he)]

/-- A mark that has no case is accepted as it is. -/
theorem accepts_mark_iff {c : Char} (still : Folding.full.moves c.toNat = false)
    (small : c.toNat < 0xd800) (d : Char) :
    (CharTest.single false c.toNat .full).accepts d = true ↔ d = c := by
  rw [CharTest.accepts, still, if_neg Bool.false_ne_true, Bool.bne_false, beq_iff_eq,
    codeOf_eq_iff small]

/-- **A letter or mark of a scheme** in any case is one of its spellings. -/
theorem accepts_caseless_iff {c : Char} (hc : c ∈ schemeChars) (d : Char) :
    (CharTest.single false c.toNat .full).accepts d = true ↔ d ∈ spellings c := by
  have kinds : c ∈ ['h', 't', 'p'] ∨ c = 's' ∨ c ∈ [':', '/'] := by
    simp only [schemeChars, List.mem_cons, List.not_mem_nil, or_false] at hc ⊢
    tauto
  rcases kinds with letter | rfl | mark
  · have alone : ∀ c ∈ ['h', 't', 'p'], Folding.full.moves c.toNat = true ∧
        Folding.full.keyOf c.toNat = c.toNat ∧ kinOf c.toNat = [c].map Char.toNat ∧
        c ∈ Unicode.schemeLetters ∧ spellings c = [c, c.toUpper] :=
      List.all_iff_forall_prop.mp (by decide +kernel)
    obtain ⟨moves, key, kin, lower, spelled⟩ := alone c letter
    rw [accepts_letter_iff [c] moves key kin (List.forall_mem_singleton.mpr lower), spelled]
    simp
  · have both : ∀ e ∈ ['s', 'ſ'], e ∈ Unicode.schemeLetters :=
      List.all_iff_forall_prop.mp (by decide)
    rw [accepts_letter_iff ['s', 'ſ'] (by decide +kernel) (by decide +kernel) rfl both]
    simp [spellings, or_assoc]
  · have still : ∀ c ∈ [':', '/'], Folding.full.moves c.toNat = false ∧ c.toNat < 0xd800 ∧
        spellings c = [c, c] :=
      List.all_iff_forall_prop.mp (by decide +kernel)
    obtain ⟨moves, small, spelled⟩ := still c mark
    rw [accepts_mark_iff moves small, spelled]
    simp

end FormRules.Predicate
