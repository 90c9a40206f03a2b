/-
# Language — what a pattern matches

Matching is handed what has to match afterwards, so that choices can be taken back.  A matcher
*takes* a language if it succeeds exactly where some text of the language comes next and the rest
matches behind it, whatever the rest may be (`Takes`).  Every way to build patterns gives such a
matcher:

    pattern         language
    empty           the empty text
    char            the characters that pass the test
    cat p q         a text of `p` and then one of `q`
    alt p q         a text of `p` or one of `q`
    loop m n p      `m` texts of `p` and then up to `n - m` more

`takes_run` says so for the patterns without anchors.  Two things are not read off the definitions.
A repetition stops after a round that takes no character, which costs nothing because a text is
always made of rounds that take some.  And the number of rounds that are tried is bounded by the
characters left, which is enough for the same reason.

Of anchors only the two are considered that enclose a whole pattern (`search_lines_iff`): a pattern
between the start of the text and the end of its last line is found exactly in its own texts and in
these with a line feed behind them.
-/
import FormRules.Pattern.Matching
import FormRules.Predicate.Formats
import FormRules.Proofs.Text.Pieces
import Mathlib.Computability.Language

namespace FormRules.Pattern

open scoped Computability

/-! ## Texts between spots -/

namespace Spot

/-- The text `w` lies between two spots. -/
structure Reads (s : Spot) (w : List Char) (s' : Spot) : Prop where
  after : s.after = w ++ s'.after
  before : s'.before = w.reverse ++ s.before

variable {s s' : Spot} {u v w : List Char}

theorem reads_nil_iff : s.Reads [] s' ↔ s' = s := by
  constructor
  · rintro ⟨after, before⟩
    obtain ⟨b, a⟩ := s
    obtain ⟨b', a'⟩ := s'
    simp_all
  · rintro rfl
    exact ⟨rfl, rfl⟩

theorem reads_append_iff : s.Reads (u ++ v) s' ↔ ∃ m, s.Reads u m ∧ m.Reads v s' := by
  constructor
  · rintro ⟨after, before⟩
    exact ⟨⟨u.reverse ++ s.before, v ++ s'.after⟩, ⟨by simp [after], rfl⟩, rfl, by simp [before]⟩
  · rintro ⟨m, ⟨after, before⟩, after', before'⟩
    exact ⟨by simp [after, after'], by simp [before, before']⟩

/-- Reading a character is advancing. -/
theorem reads_singleton_iff {c : Char} : s.Reads [c] s' ↔ s.advance? = some (c, s') := by
  obtain ⟨b, a⟩ := s
  obtain ⟨b', a'⟩ := s'
  constructor
  · rintro ⟨after, before⟩
    simp_all [advance?]
  · intro advanced
    cases a with
    | nil => simp [advance?] at advanced
    | cons d rest =>
        obtain ⟨rfl, rfl, rfl⟩ : d = c ∧ d :: b = b' ∧ rest = a' := by
          simpa [advance?] using advanced
        exact ⟨rfl, rfl⟩

theorem Reads.length (h : s.Reads w s') : s.after.length = w.length + s'.after.length := by
  rw [h.after, List.length_append]

end Spot

/-! ## Matchers and their languages -/

/-- A matcher succeeds exactly where a text of the language comes next and the rest matches behind
it. -/
def Takes (body : Spot → Next → Option Spot) (L : Language Char) : Prop :=
  ∀ s k, (body s k).isSome = true ↔ ∃ w ∈ L, ∃ s', s.Reads w s' ∧ (k s').isSome = true

/-- Texts of a language one behind the other, within a budget if there is one. -/
def further (budget : Option Nat) (L : Language Char) : Language Char :=
  {w | ∃ n, (∀ most ∈ budget, n ≤ most) ∧ w ∈ L ^ n}

section Takes

variable {body body' : Spot → Next → Option Spot} {L L' : Language Char}

theorem takes_empty : Takes (fun s k => k s) 1 := by
  intro s k
  simp [Language.mem_one, Spot.reads_nil_iff]

theorem Takes.cat (h : Takes body L) (h' : Takes body' L') :
    Takes (fun s k => body s fun s' => body' s' k) (L * L') := by
  intro s k
  simp only [h s, h' _ k, Language.mem_mul]
  constructor
  · rintro ⟨u, hu, m, first, v, hv, s', second, done⟩
    exact ⟨u ++ v, ⟨u, hu, v, hv, rfl⟩, s', Spot.reads_append_iff.mpr ⟨m, first, second⟩, done⟩
  · rintro ⟨_, ⟨u, hu, v, hv, rfl⟩, s', reads, done⟩
    obtain ⟨m, first, second⟩ := Spot.reads_append_iff.mp reads
    exact ⟨u, hu, m, first, v, hv, s', second, done⟩

theorem Takes.alt (h : Takes body L) (h' : Takes body' L') :
    Takes (fun s k => (body s k).or (body' s k)) (L + L') := by
  intro s k
  simp only [Option.isSome_or, Bool.or_eq_true, h s k, h' s k, Language.mem_add, or_and_right,
    exists_or]

theorem takes_rounds (h : Takes body L) (n : Nat) : Takes (rounds body n) (L ^ n) := by
  induction n with
  | zero =>
      rw [pow_zero]
      exact takes_empty
  | succ n ih =>
      rw [pow_succ']
      exact h.cat ih

/-- A text of some rounds that is not empty begins with a round that is not empty. -/
theorem exists_first_round {n : Nat} {w : List Char} (h : w ∈ L ^ n) (hw : w ≠ []) :
    ∃ u ∈ L, ∃ m, m < n ∧ ∃ v ∈ L ^ m, u ≠ [] ∧ u ++ v = w := by
  induction n with
  | zero =>
      rw [pow_zero, Language.mem_one] at h
      exact absurd h hw
  | succ n ih =>
      rw [pow_succ', Language.mem_mul] at h
      obtain ⟨u, hu, v, hv, rfl⟩ := h
      by_cases empty : u = []
      · subst empty
        obtain ⟨u', hu', m, hm, rest⟩ := ih hv
        exact ⟨u', hu', m, Nat.lt_succ_of_lt hm, rest⟩
      · exact ⟨u, hu, n, Nat.lt_succ_self n, v, hv, empty, rfl⟩

theorem nil_mem_further (budget : Option Nat) (L : Language Char) : [] ∈ further budget L :=
  ⟨0, fun _ _ => Nat.zero_le _, by rw [pow_zero]; exact Language.nil_mem_one⟩

/-- A round in front of further rounds, as long as the budget allows one. -/
theorem append_mem_further {budget : Option Nat} (hbudget : budget ≠ some 0) {u v : List Char}
    (hu : u ∈ L) (hv : v ∈ further (budget.map (· - 1)) L) : u ++ v ∈ further budget L := by
  obtain ⟨n, within, hv⟩ := hv
  refine ⟨n + 1, ?_, ?_⟩
  · rintro most rfl
    have positive : most ≠ 0 := fun none => hbudget (none ▸ rfl)
    have fewer : n ≤ most - 1 := within (most - 1) rfl
    omega
  · rw [pow_succ']
    exact Language.append_mem_mul hu hv

/-- Further rounds that take something begin with a round that does. -/
theorem exists_first_further {budget : Option Nat} {w : List Char} (h : w ∈ further budget L)
    (hw : w ≠ []) :
    ∃ u ∈ L, ∃ v ∈ further (budget.map (· - 1)) L, u ≠ [] ∧ u ++ v = w := by
  obtain ⟨n, within, h⟩ := h
  obtain ⟨u, hu, m, hm, v, hv, rest⟩ := exists_first_round h hw
  refine ⟨u, hu, v, ⟨m, ?_, hv⟩, rest⟩
  intro most hmost
  obtain ⟨all, hall, rfl⟩ := Option.mem_map.mp hmost
  have := within all hall
  omega

/-- What is tried in a further round, unless the budget is used up. -/
theorem furtherRounds_succ {budget : Option Nat} (hbudget : budget ≠ some 0) (fuel : Nat)
    (s : Spot) (k : Next) :
    furtherRounds body (fuel + 1) budget s k =
      (body s fun s' =>
        if s'.after.length < s.after.length then
          furtherRounds body fuel (budget.map (· - 1)) s' k
        else k s').or (k s) := by
  rw [furtherRounds, if_neg hbudget]
  split <;> simp_all

/-- With more fuel than characters left, further rounds are those within the budget. -/
theorem isSome_furtherRounds_iff (h : Takes body L) {fuel : Nat} {budget : Option Nat} {s : Spot}
    (hfuel : s.after.length < fuel) (k : Next) :
    (furtherRounds body fuel budget s k).isSome = true ↔
      ∃ w ∈ further budget L, ∃ s', s.Reads w s' ∧ (k s').isSome = true := by
  induction fuel generalizing s budget with
  | zero => exact absurd hfuel (Nat.not_lt_zero _)
  | succ fuel ih =>
      have stopping : (k s).isSome = true →
          ∃ w ∈ further budget L, ∃ s', s.Reads w s' ∧ (k s').isSome = true :=
        fun done => ⟨[], nil_mem_further budget L, s, Spot.reads_nil_iff.mpr rfl, done⟩
      by_cases hbudget : budget = some 0
      · rw [furtherRounds, if_pos hbudget]
        refine ⟨stopping, ?_⟩
        rintro ⟨w, ⟨n, within, hw⟩, s', reads, done⟩
        obtain rfl : n = 0 := Nat.le_zero.mp (within 0 hbudget)
        rw [pow_zero, Language.mem_one] at hw
        subst hw
        rwa [← Spot.reads_nil_iff.mp reads]
      · rw [furtherRounds_succ hbudget, Option.isSome_or, Bool.or_eq_true, h]
        constructor
        · rintro (⟨u, hu, m, first, done⟩ | done)
          · by_cases shorter : m.after.length < s.after.length
            · rw [if_pos shorter, ih (by omega)] at done
              obtain ⟨v, hv, s', second, done⟩ := done
              exact ⟨u ++ v, append_mem_further hbudget hu hv, s',
                Spot.reads_append_iff.mpr ⟨m, first, second⟩, done⟩
            · rw [if_neg shorter] at done
              have alone := append_mem_further hbudget hu (nil_mem_further _ L)
              rw [List.append_nil] at alone
              exact ⟨u, alone, m, first, done⟩
          · exact stopping done
        · rintro ⟨w, hw, s', reads, done⟩
          by_cases empty : w = []
          · subst empty
            right
            rwa [← Spot.reads_nil_iff.mp reads]
          · left
            obtain ⟨u, hu, v, hv, taken, rfl⟩ := exists_first_further hw empty
            obtain ⟨m, first, second⟩ := Spot.reads_append_iff.mp reads
            have shorter : m.after.length < s.after.length := by
              have := first.length
              have := List.length_pos_of_ne_nil taken
              omega
            refine ⟨u, hu, m, first, ?_⟩
            rw [if_pos shorter, ih (by omega)]
            exact ⟨v, hv, s', second, done⟩

end Takes

/-! ## Patterns without anchors -/

/-- The texts of a pattern, where anchors are left out. -/
def language : Pattern → Language Char
  | .empty | .anchor _ => 1
  | .char test => {w | ∃ c, test.accepts c = true ∧ w = [c]}
  | .cat p q => p.language * q.language
  | .alt p q => p.language + q.language
  | .loop least most p => p.language ^ least * further (most.map (· - least)) p.language

/-- A pattern asks for characters only. -/
def IsPlain : Pattern → Prop
  | .empty | .char _ => True
  | .anchor _ => False
  | .cat p q | .alt p q => p.IsPlain ∧ q.IsPlain
  | .loop _ _ p => p.IsPlain

/-- **Matching a pattern takes its texts.** -/
theorem takes_run : ∀ {p : Pattern}, p.IsPlain → Takes p.run p.language
  | .empty, _ => takes_empty
  | .char test, _ => by
      intro s k
      rw [run]
      constructor
      · intro done
        cases advanced : s.advance? with
        | none => simp [advanced] at done
        | some next =>
            obtain ⟨c, s'⟩ := next
            have accepted : test.accepts c = true := by
              by_contra rejected
              simp [advanced, rejected] at done
            refine ⟨[c], ⟨c, accepted, rfl⟩, s', Spot.reads_singleton_iff.mpr advanced, ?_⟩
            simpa [advanced, accepted] using done
      · rintro ⟨_, ⟨c, accepted, rfl⟩, s', reads, done⟩
        simpa [Spot.reads_singleton_iff.mp reads, accepted] using done
  | .cat p q, ⟨hp, hq⟩ => (takes_run hp).cat (takes_run hq)
  | .alt p q, ⟨hp, hq⟩ => by
      intro s k
      have tried : run (.alt p q) s k = (run p s k).or (run q s k) := by
        rw [run]
        cases run p s k <;> rfl
      rw [tried]
      exact (takes_run hp).alt (takes_run hq) s k
  | .loop least most p, hp => by
      have body : Takes p.run p.language := takes_run hp
      have rest : Takes (fun s k =>
          furtherRounds p.run (s.after.length + 1) (most.map (· - least)) s k)
          (further (most.map (· - least)) p.language) :=
        fun s k => isSome_furtherRounds_iff body (Nat.lt_succ_self _) k
      exact (takes_rounds body least).cat rest

/-- A pattern describes the whole of exactly its texts. -/
theorem fullMatches_iff {p : Pattern} (hp : p.IsPlain) (s : List Char) :
    p.fullMatches s = true ↔ s ∈ p.language := by
  have ends (m : Spot) :
      (if m.after.isEmpty then some m else none).isSome = true ↔ m.after = [] := by
    simp
  rw [fullMatches, takes_run hp]
  simp only [ends]
  constructor
  · rintro ⟨w, hw, m, reads, atEnd⟩
    have whole : s = w ++ m.after := reads.after
    rwa [whole, atEnd, List.append_nil]
  · intro hs
    exact ⟨s, hs, ⟨s.reverse, []⟩, ⟨(List.append_nil s).symm, (List.append_nil _).symm⟩, rfl⟩

/-! ## Languages of common shapes -/

open Predicate

theorem further_none (L : Language Char) : further none L = L∗ := by
  ext w
  rw [Language.kstar_eq_iSup_pow, Language.mem_iSup]
  constructor
  · rintro ⟨n, -, hw⟩
    exact ⟨n, hw⟩
  · rintro ⟨n, hw⟩
    exact ⟨n, fun _ bound => (nomatch bound), hw⟩

theorem language_many (p : Pattern) : (many p).language = p.language∗ := by
  simp [many, language, further_none]

theorem language_oneOrMore (p : Pattern) :
    (oneOrMore p).language = p.language * p.language∗ := by
  simp [oneOrMore, language, further_none]

theorem language_optional (p : Pattern) : (Predicate.optional p).language = 1 + p.language := by
  ext w
  rw [Language.mem_add]
  simp only [Predicate.optional, language, pow_zero, one_mul]
  constructor
  · rintro ⟨n, within, hw⟩
    rcases Nat.le_one_iff_eq_zero_or_eq_one.mp (within 1 rfl) with rfl | rfl
    · exact .inl hw
    · exact .inr (by simpa using hw)
  · rintro (hw | hw)
    · exact ⟨0, by simp, hw⟩
    · exact ⟨1, by simp, by simpa using hw⟩

/-- A character with a code below those of halves of pairs stands for itself. -/
theorem codeOf_eq_iff {c d : Char} (hd : d.toNat < 0xd800) : Text.codeOf c = d.toNat ↔ c = d := by
  rw [← Char.toNat_inj]
  unfold Text.codeOf
  split
  · rename_i half
    simp only [Text.isHalf, Bool.and_eq_true, decide_eq_true_eq] at half
    omega
  · exact Iff.rfl

/-- A range of characters, given by its ends, holds what lies between them. -/
theorem holdsExactly_span {low high : Char} (h : high.toNat < 0xd800) (c : Char) :
    (span low high).holdsExactly c = true ↔ low.toNat ≤ c.toNat ∧ c.toNat ≤ high.toNat := by
  simp only [span, Item.holdsExactly, Text.codeOf, Bool.and_eq_true, decide_eq_true_eq]
  split
  · rename_i half
    simp only [Text.isHalf, Bool.and_eq_true, decide_eq_true_eq] at half
    omega
  · exact Iff.rfl

theorem language_literal {c : Char} (hc : c.toNat < 0xd800) :
    (Predicate.literal c).language = {[c]} := by
  have accepts (d : Char) :
      (CharTest.single false c.toNat .exact).accepts d = true ↔ d = c := by
    simp [CharTest.accepts, Folding.moves, codeOf_eq_iff hc]
  ext w
  show (∃ d, (CharTest.single false c.toNat .exact).accepts d = true ∧ w = [d]) ↔ w = [c]
  simp [accepts]

theorem holdsExactly_one_of (cs : List Char) (hcs : ∀ d ∈ cs, d.toNat < 0xd800) (c : Char) :
    (cs.map one).any (Item.holdsExactly c) = true ↔ c ∈ cs := by
  simp only [List.any_map, List.any_eq_true, Function.comp, one, Item.holdsExactly, beq_iff_eq]
  constructor
  · rintro ⟨d, hd, equal⟩
    exact (codeOf_eq_iff (hcs d hd)).mp equal ▸ hd
  · exact fun hc => ⟨c, hc, (codeOf_eq_iff (hcs c hc)).mpr rfl⟩

/-- A set of some characters. -/
theorem accepts_one_of (cs : List Char) (hcs : ∀ d ∈ cs, d.toNat < 0xd800) (c : Char) :
    (CharTest.set false (cs.map one) .exact).accepts c = true ↔ c ∈ cs := by
  simp [CharTest.accepts, ← holdsExactly_one_of cs hcs c]

/-- A set of all characters but some. -/
theorem accepts_except (cs : List Char) (hcs : ∀ d ∈ cs, d.toNat < 0xd800) (c : Char) :
    (CharTest.set true (cs.map one) .exact).accepts c = true ↔ c ∉ cs := by
  simp [CharTest.accepts, ← holdsExactly_one_of cs hcs c]

theorem mem_kstar_char_iff {test : CharTest} {w : List Char} :
    w ∈ (char test).language∗ ↔ ∀ c ∈ w, test.accepts c = true := by
  rw [Language.mem_kstar]
  constructor
  · rintro ⟨parts, rfl, each⟩ c hc
    obtain ⟨part, hpart, hc⟩ := List.mem_flatten.mp hc
    obtain ⟨d, accepted, rfl⟩ := each part hpart
    rwa [List.mem_singleton.mp hc]
  · intro accepted
    refine ⟨w.map ([·]), (List.flatMap_singleton' w).symm, ?_⟩
    intro part hpart
    obtain ⟨c, hc, rfl⟩ := List.mem_map.mp hpart
    exact ⟨c, accepted c hc, rfl⟩

/-- One or more characters that pass a test. -/
theorem mem_oneOrMore_char_iff {test : CharTest} {w : List Char} :
    w ∈ (oneOrMore (char test)).language ↔ w ≠ [] ∧ ∀ c ∈ w, test.accepts c = true := by
  rw [language_oneOrMore, Language.mem_mul]
  constructor
  · rintro ⟨_, ⟨c, accepted, rfl⟩, rest, hrest, rfl⟩
    refine ⟨List.cons_ne_nil _ _, ?_⟩
    simpa [accepted] using mem_kstar_char_iff.mp hrest
  · rintro ⟨hw, accepted⟩
    obtain ⟨c, rest, rfl⟩ := List.exists_cons_of_ne_nil hw
    obtain ⟨first, later⟩ := List.forall_mem_cons.mp accepted
    exact ⟨[c], ⟨c, first, rfl⟩, rest, mem_kstar_char_iff.mpr later, rfl⟩

/-! ## Lists with separators -/

section Separated

variable {A B : Language Char} {sep : Char}

/-- A text, and others each with a separator in front of it, are these texts joined. -/
theorem mem_separated_iff {w : List Char} :
    w ∈ A * ({[sep]} * B)∗ ↔
      ∃ first rest, first ∈ A ∧ (∀ piece ∈ rest, piece ∈ B) ∧
        Text.join sep (first :: rest) = w := by
  rw [Language.mem_mul]
  constructor
  · rintro ⟨first, hfirst, _, hrest, rfl⟩
    obtain ⟨parts, rfl, each⟩ := Language.mem_kstar.mp hrest
    have shape (part : List Char) (h : part ∈ parts) : ∃ piece ∈ B, part = sep :: piece := by
      obtain ⟨_, rfl, piece, hpiece, rfl⟩ := Language.mem_mul.mp (each part h)
      exact ⟨piece, hpiece, rfl⟩
    refine ⟨first, parts.map List.tail, hfirst, ?_, ?_⟩
    · intro tail htail
      obtain ⟨part, hpart, rfl⟩ := List.mem_map.mp htail
      obtain ⟨piece, hpiece, rfl⟩ := shape part hpart
      exact hpiece
    · have remade : (parts.map List.tail).map (sep :: ·) = parts := by
        rw [List.map_map]
        refine (List.map_congr_left fun part hpart => ?_).trans (List.map_id parts)
        obtain ⟨piece, -, rfl⟩ := shape part hpart
        rfl
      rw [Text.join_cons, remade]
  · rintro ⟨first, rest, hfirst, each, rfl⟩
    refine ⟨first, hfirst, (rest.map (sep :: ·)).flatten, ?_, (Text.join_cons sep first rest).symm⟩
    refine Language.mem_kstar.mpr ⟨_, rfl, ?_⟩
    intro part hpart
    obtain ⟨piece, hpiece, rfl⟩ := List.mem_map.mp hpart
    exact Language.mem_mul.mpr ⟨[sep], rfl, piece, each piece hpiece, rfl⟩

/-- A language that allows more text behind each of its texts. -/
def Extensible (more : List Char) (L : Language Char) : Prop := ∀ w ∈ L, w ++ more ∈ L

variable {more : List Char}

theorem Extensible.mul (hB : Extensible more B) : Extensible more (A * B) := by
  rintro _ ⟨a, ha, b, hb, rfl⟩
  exact ⟨a, ha, b ++ more, hB b hb, by simp⟩

/-- It is the last text of a list that is extended. -/
theorem Extensible.mul_kstar (hA : Extensible more A) (hB : Extensible more B) :
    Extensible more (A * B∗) := by
  rintro _ ⟨a, ha, b, hb, rfl⟩
  obtain ⟨parts, rfl, each⟩ := Language.mem_kstar.mp hb
  rcases List.eq_nil_or_concat parts with rfl | ⟨earlier, last, rfl⟩
  · exact ⟨a ++ more, hA a ha, [], Language.nil_mem_kstar B, by simp⟩
  · refine ⟨a, ha, (earlier ++ [last ++ more]).flatten, Language.join_mem_kstar ?_, by simp⟩
    intro part hpart
    simp only [List.concat_eq_append] at each
    rcases List.mem_append.mp hpart with h | h
    · exact each part (List.mem_append_left _ h)
    · rw [List.mem_singleton.mp h]
      exact hB last (each last (by simp))

end Separated

/-! ## Whole lines -/

theorem run_textStart (p : Pattern) (s : Spot) (k : Next) :
    run (cat (.anchor .textStart) p) s k = if s.before = [] then run p s k else none := by
  obtain ⟨_ | ⟨c, before⟩, after⟩ := s <;> rfl

theorem matchesFrom_succ (p : Pattern) (fuel : Nat) (s : Spot) :
    p.matchesFrom (fuel + 1) s =
      ((p.run s some).isSome || s.advance?.any fun next => p.matchesFrom fuel next.2) := by
  rw [matchesFrom.eq_def]
  rcases advanced : s.advance? with _ | ⟨c, s'⟩
  · simp [advanced]
  · simp [advanced]

/-- A pattern that begins at the start of the text is looked for there only. -/
theorem search_textStart (p : Pattern) (s : List Char) :
    (cat (.anchor .textStart) p).search s = (p.run (.start s) some).isSome := by
  have later (fuel : Nat) (m : Spot) (hm : m.before ≠ []) :
      (cat (.anchor .textStart) p).matchesFrom fuel m = false := by
    induction fuel generalizing m with
    | zero => simp [matchesFrom, run_textStart, hm]
    | succ fuel ih =>
        rw [matchesFrom_succ, run_textStart, if_neg hm, Option.isSome_none, Bool.false_or]
        cases advanced : m.advance? with
        | none => rfl
        | some next =>
            have onward := Spot.reads_singleton_iff.mpr advanced
            exact ih next.2 (by simp [onward.before])
  have atStart : run (cat (.anchor .textStart) p) (.start s) some = run p (.start s) some := by
    rw [run_textStart]
    exact if_pos rfl
  unfold search
  cases s with
  | nil => simp [matchesFrom, atStart]
  | cons c rest =>
      rw [List.length_cons, matchesFrom_succ, atStart]
      have behind : (cat (.anchor .textStart) p).matchesFrom rest.length ⟨[c], rest⟩ = false :=
        later _ _ (List.cons_ne_nil _ _)
      simp [Spot.start, Spot.advance?, behind]

/-- A pattern between the start of the text and the end of its last line describes the text, with or
without a line feed behind it. -/
theorem search_lines_iff {p : Pattern} (hp : p.IsPlain) (s : List Char) :
    (cat (.anchor .textStart) (.cat p (.anchor .lastLineEnd))).search s = true ↔
      s ∈ p.language ∨ ∃ w ∈ p.language, s = w ++ ['\n'] := by
  have ends (m : Spot) : (run (.anchor .lastLineEnd) m some).isSome = true ↔
      m.after = [] ∨ m.after = ['\n'] := by
    simp [run, Spot.isAt, Anchor.isAt]
  have found : (run (.cat p (.anchor .lastLineEnd)) (.start s) some).isSome = true ↔
      ∃ w ∈ p.language, ∃ m, (Spot.start s).Reads w m ∧
        (run (.anchor .lastLineEnd) m some).isSome = true :=
    takes_run hp (.start s) (run (.anchor .lastLineEnd) · some)
  rw [search_textStart, found]
  constructor
  · rintro ⟨w, hw, m, reads, atEnd⟩
    have whole : s = w ++ m.after := reads.after
    rcases (ends m).mp atEnd with atEnd | atEnd
    · left
      rwa [whole, atEnd, List.append_nil]
    · exact .inr ⟨w, hw, by rw [whole, atEnd]⟩
  · rintro (hw | ⟨w, hw, rfl⟩)
    · exact ⟨s, hw, ⟨s.reverse, []⟩, ⟨(List.append_nil s).symm, (List.append_nil _).symm⟩,
        (ends _).mpr (.inl rfl)⟩
    · exact ⟨w, hw, ⟨w.reverse, ['\n']⟩, ⟨rfl, (List.append_nil _).symm⟩,
        (ends _).mpr (.inr rfl)⟩

end FormRules.Pattern
