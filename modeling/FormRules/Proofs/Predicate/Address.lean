/-
# Addresses — which texts pass the rule about mail addresses

The format of mail addresses is a pattern whose repetitions overlap: dots and letters may belong to
the host as well as to its last label, and the one dot that is asked for by itself may be any.  Yet
a text is of the format in at most one way, for the last label holds no dot and nothing but the name
and the host stands around an at sign.  So an address can be told by two cuts:

    name @ host                 at the only at sign
           domain . label       at the last dot

`IsAddress` says what these four pieces have to be, and `isEmail_exact` that this is the format.
-/
import FormRules.Proofs.Pattern.Sets
import FormRules.Proofs.Predicate.Standard
import FormRules.Proofs.Text.Cutting

namespace FormRules.Predicate

open Pattern Text
open scoped Computability

/-! ## Addresses -/

/-- What may stand in front of the at sign. -/
def IsNameChar (c : Char) : Prop := c.isAlphanum = true ∨ c ∈ ['.', '_', '%', '+', '-']

/-- What may stand behind the at sign. -/
def IsHostChar (c : Char) : Prop := c.isAlphanum = true ∨ c ∈ ['.', '-']

/-- A mail address, told by its cuts at the at sign and at the last dot. -/
structure IsAddress (s : List Char) : Prop where
  single : s.count '@' = 1
  name : (cutFirst '@' s).1 ≠ []
  nameChars : ∀ c ∈ (cutFirst '@' s).1, IsNameChar c
  hostChars : ∀ c ∈ (cutFirst '@' s).2, IsHostChar c
  dotted : '.' ∈ (cutFirst '@' s).2
  domain : (cutLast '.' (cutFirst '@' s).2).1 ≠ []
  label : 2 ≤ (cutLast '.' (cutFirst '@' s).2).2.length
  letters : ∀ c ∈ (cutLast '.' (cutFirst '@' s).2).2, c.isAlpha = true

theorem not_isNameChar_at : ¬ IsNameChar '@' := by
  rintro (plain | mark)
  · cases plain
  · simp at mark

theorem not_isHostChar_at : ¬ IsHostChar '@' := by
  rintro (plain | mark)
  · cases plain
  · simp at mark

/-- The pieces of an address. -/
structure IsCutInto (s name domain label : List Char) : Prop where
  pieces : s = name ++ '@' :: (domain ++ '.' :: label)
  name : name ≠ [] ∧ ∀ c ∈ name, IsNameChar c
  domain : domain ≠ [] ∧ ∀ c ∈ domain, IsHostChar c
  label : 2 ≤ label.length ∧ ∀ c ∈ label, c.isAlpha = true

/-- An address is cut into its pieces. -/
theorem isAddress_iff {s : List Char} :
    IsAddress s ↔ ∃ name domain label, IsCutInto s name domain label := by
  constructor
  · rintro ⟨single, some, nameChars, hostChars, dotted, some', long, letters⟩
    have at' : '@' ∈ s := List.count_pos_iff.mp (single ▸ Nat.one_pos)
    cases cut : cutFirst '@' s with
    | mk name host =>
        rw [cut] at some nameChars hostChars dotted some' long letters
        cases cut' : cutLast '.' host with
        | mk domain label =>
            rw [cut'] at some' long letters
            obtain ⟨-, rfl⟩ := (cutFirst_eq_iff at').mp cut
            obtain ⟨-, rfl⟩ := (cutLast_eq_iff dotted).mp cut'
            have domainChars : ∀ c ∈ domain, IsHostChar c :=
              fun c hc => hostChars c (List.mem_append_left _ hc)
            exact ⟨name, domain, label, rfl, ⟨some, nameChars⟩, ⟨some', domainChars⟩, long, letters⟩
  · rintro ⟨name, domain, label, rfl, ⟨some, nameChars⟩, ⟨some', domainChars⟩, long, letters⟩
    have noAt : '@' ∉ name := fun h => not_isNameChar_at (nameChars _ h)
    have noDot : '.' ∉ label := fun h => Bool.noConfusion (letters _ h)
    have hostChars : ∀ c ∈ domain ++ '.' :: label, IsHostChar c := by
      refine List.forall_mem_append.mpr ⟨domainChars, List.forall_mem_cons.mpr ⟨.inr (by simp), ?_⟩⟩
      intro c hc
      exact .inl (by simp [Char.isAlphanum, letters c hc])
    have noAt' : '@' ∉ domain ++ '.' :: label := fun h => not_isHostChar_at (hostChars _ h)
    have dotted : '.' ∈ domain ++ '.' :: label := by simp
    have cut : cutFirst '@' (name ++ '@' :: (domain ++ '.' :: label)) = _ := cutFirst_append noAt
    have cut' := (cutLast_eq_iff dotted).mpr ⟨noDot, rfl⟩
    have once : (name ++ '@' :: (domain ++ '.' :: label)).count '@' = 1 := by
      rw [List.count_append, List.count_eq_zero.mpr noAt, List.count_cons_self,
        List.count_eq_zero.mpr noAt']
    constructor
    · exact once
    · rwa [cut]
    · rwa [cut]
    · rwa [cut]
    · rwa [cut]
    · rwa [cut, cut']
    · rwa [cut, cut']
    · rwa [cut, cut']

/-! ## The format -/

theorem isPlain_emailPattern : emailPattern.IsPlain := by
  simp [emailPattern, inOrder, oneOrMore, oneOf, literal, Pattern.IsPlain]

theorem isAlphanum_eq (c : Char) : c.isAlphanum = ((c.isUpper || c.isLower) || c.isDigit) := rfl

theorem any_nameChars (c : Char) :
    [lowerLetters, upperLetters, digits, one '.', one '_', one '%', one '+', one '-'].any
      (Item.holdsExactly c) = true ↔ IsNameChar c := by
  simp [holdsExactly_one, IsNameChar, isAlphanum_eq, or_assoc, or_left_comm]

theorem any_hostChars (c : Char) :
    [lowerLetters, upperLetters, digits, one '.', one '-'].any (Item.holdsExactly c) = true ↔
      IsHostChar c := by
  simp [holdsExactly_one, IsHostChar, isAlphanum_eq, or_assoc, or_left_comm]

theorem any_letters (c : Char) :
    [lowerLetters, upperLetters].any (Item.holdsExactly c) = true ↔ c.isAlpha = true := by
  have letter : c.isAlpha = (c.isUpper || c.isLower) := rfl
  simp [letter, or_comm]

/-- The format of mail addresses takes addresses. -/
theorem fullMatches_emailPattern_iff {s : List Char} :
    emailPattern.fullMatches s = true ↔ IsAddress s := by
  rw [fullMatches_iff isPlain_emailPattern, isAddress_iff]
  have at' : (literal '@').language = {['@']} := language_literal (by decide)
  have dot : (literal '.').language = {['.']} := language_literal (by decide)
  constructor
  · rintro ⟨name, names, _, ⟨_, hat, _, ⟨domain, domains, _, ⟨_, hdot, label, labels, rfl⟩, rfl⟩,
      rfl⟩, rfl⟩
    rw [at'] at hat
    rw [dot] at hdot
    obtain rfl := hat
    obtain rfl := hdot
    exact ⟨name, domain, label, rfl, (mem_oneOrMore_oneOf_iff any_nameChars).mp names,
      (mem_oneOrMore_oneOf_iff any_hostChars).mp domains,
      (mem_loop_oneOf_iff any_letters).mp labels⟩
  · rintro ⟨name, domain, label, rfl, names, domains, labels⟩
    have dotted : '.' :: label ∈ (literal '.').language *
        (Pattern.loop 2 none (oneOf [lowerLetters, upperLetters])).language :=
      ⟨['.'], dot ▸ rfl, label, (mem_loop_oneOf_iff any_letters).mpr labels, rfl⟩
    exact ⟨name, (mem_oneOrMore_oneOf_iff any_nameChars).mpr names, _, ⟨['@'], at' ▸ rfl, _,
      ⟨domain, (mem_oneOrMore_oneOf_iff any_hostChars).mpr domains, _, dotted, rfl⟩, rfl⟩, rfl⟩

end FormRules.Predicate

namespace FormRules.StandardRule

/-- **Mail addresses.**  Every text is decided: it passes exactly if it holds one at sign, with a
name of plain letters, digits and some marks before it, and behind it a host of letters, digits,
dots and hyphens that has something before its last dot and two letters or more, and nothing else,
behind it. -/
theorem isEmail_exact (text : String) :
    ∃ b, isEmail.test (.str text) [] = .ok (.bool b) ∧
      (b = true ↔ Predicate.IsAddress text.toList) := by
  have tested : isEmail.test (.str text) [] =
      .ok (.bool (Predicate.emailPattern.fullMatches text.toList)) := test_str isEmail text []
  exact ⟨_, tested, Predicate.fullMatches_emailPattern_iff⟩

end FormRules.StandardRule
