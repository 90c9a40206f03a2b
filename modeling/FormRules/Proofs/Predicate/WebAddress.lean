/-
# Web addresses — which texts pass the rule about them

The format of web addresses asks for a scheme in any case, and behind it for two characters that are
not treated alike:

    scheme      `http://` or `https://`, letter by letter in any case
    first       no white space, and none of `/ $ . ? #`
    second      anything but a line feed
    rest        no white space

So white space is turned away nearly everywhere.  There is one place where it is not, which is the
second character behind the scheme: this may be any character but a line feed, blank or not
(`isURL_exact`).
-/
import FormRules.Proofs.Pattern.Folding
import FormRules.Proofs.Pattern.Sets
import FormRules.Proofs.Predicate.Standard

namespace FormRules.Predicate

open Pattern
open scoped Computability

/-! ## Addresses -/

/-- A text is a word in any case. -/
def IsSpelled (word s : List Char) : Prop := List.Forall₂ (fun c d => d ∈ spellings c) word s

/-- A scheme and the two slashes behind it. -/
def IsScheme (s : List Char) : Prop :=
  IsSpelled "http://".toList s ∨ IsSpelled "https://".toList s

/-- The parts of a web address. -/
structure IsWebAddress (s scheme : List Char) (first second : Char) (rest : List Char) : Prop where
  parts : s = scheme ++ first :: second :: rest
  scheme : IsScheme scheme
  first : Unicode.isBlank first = false ∧ first ∉ ['/', '$', '.', '?', '#']
  second : second ≠ '\n'
  rest : ∀ c ∈ rest, Unicode.isBlank c = false

/-! ## Words -/

/-- The texts that are a word in any case. -/
def spelled (word : List Char) : Language Char := {s | IsSpelled word s}

theorem spelled_nil : spelled [] = 1 := by
  ext s
  exact List.forall₂_nil_left_iff

theorem spelled_cons (c : Char) (word : List Char) :
    spelled (c :: word) = spelled [c] * spelled word := by
  ext s
  rw [Language.mem_mul]
  constructor
  · intro spelling
    obtain ⟨d, rest, first, later, rfl⟩ := List.forall₂_cons_left_iff.mp spelling
    exact ⟨[d], .cons first .nil, rest, later, rfl⟩
  · rintro ⟨u, first, v, later, rfl⟩
    obtain ⟨d, _, spelling, none, rfl⟩ := List.forall₂_cons_left_iff.mp first
    obtain rfl := List.forall₂_nil_left_iff.mp none
    exact .cons spelling later

theorem spelled_append (u v : List Char) : spelled (u ++ v) = spelled u * spelled v := by
  induction u with
  | nil => rw [List.nil_append, spelled_nil, one_mul]
  | cons c u ih => rw [List.cons_append, spelled_cons, ih, ← mul_assoc, ← spelled_cons]

/-- One letter in any case. -/
theorem language_caseless {c : Char} (hc : c ∈ schemeChars) :
    (caseless c).language = spelled [c] := by
  ext s
  show (∃ d, (CharTest.single false c.toNat .full).accepts d = true ∧ s = [d]) ↔ IsSpelled [c] s
  simp only [accepts_caseless_iff hc, IsSpelled, List.forall₂_cons_left_iff,
    List.forall₂_nil_left_iff]
  constructor
  · rintro ⟨d, spelling, rfl⟩
    exact ⟨d, [], spelling, rfl, rfl⟩
  · rintro ⟨d, _, spelling, rfl, rfl⟩
    exact ⟨d, spelling, rfl⟩

theorem language_inOrder_cons (p : Pattern) (ps : List Pattern) :
    (inOrder (p :: ps)).language = p.language * (inOrder ps).language := by
  cases ps with
  | nil => exact (mul_one p.language).symm
  | cons q qs => rfl

/-- A word in any case, and further patterns behind it. -/
theorem language_inOrder_word {word : List Char} (h : word ⊆ schemeChars) (ps : List Pattern) :
    (inOrder (word.map caseless ++ ps)).language = spelled word * (inOrder ps).language := by
  induction word with
  | nil => rw [List.map_nil, List.nil_append, spelled_nil, one_mul]
  | cons c word ih =>
      obtain ⟨letter, later⟩ := List.cons_subset.mp h
      rw [List.map_cons, List.cons_append, language_inOrder_cons, language_caseless letter,
        ih later, ← mul_assoc, ← spelled_cons]

/-! ## The format -/

/-- What may come first behind the scheme. -/
def firstTest : CharTest :=
  .set true [.category .blank false false, one '/', one '$', one '.', one '?', one '#'] .exact

/-- What may come from the third character on. -/
def visibleTest : CharTest := .set true [.category .blank false false] .exact

/-- What comes behind the scheme. -/
def placePattern : Pattern :=
  inOrder [.char firstTest, .char (.any false), many (.char visibleTest)]

theorem holdsExactly_blank (c : Char) :
    (Item.category .blank false false).holdsExactly c = Unicode.isBlank c :=
  Bool.bne_false _

theorem accepts_firstTest_iff (c : Char) :
    firstTest.accepts c = true ↔
      Unicode.isBlank c = false ∧ c ∉ ['/', '$', '.', '?', '#'] := by
  simp [firstTest, CharTest.accepts, holdsExactly_blank, holdsExactly_one]

theorem accepts_any_iff (c : Char) : (CharTest.any false).accepts c = true ↔ c ≠ '\n' := by
  simp [CharTest.accepts]

theorem accepts_visibleTest_iff (c : Char) :
    visibleTest.accepts c = true ↔ Unicode.isBlank c = false := by
  simp [visibleTest, CharTest.accepts, holdsExactly_blank]

theorem isPlain_urlPattern : urlPattern.IsPlain := by
  simp [urlPattern, inOrder, caseless, optional, many, Pattern.IsPlain]

theorem language_urlPattern :
    urlPattern.language =
      (spelled "http://".toList + spelled "https://".toList) * placePattern.language := by
  have pieces : urlPattern = inOrder ("http".toList.map caseless ++
      optional (caseless 's') :: ("://".toList.map caseless ++ [placePattern])) := rfl
  have short : spelled "http://".toList = spelled "http".toList * spelled "://".toList :=
    spelled_append "http".toList "://".toList
  -- The two schemes differ by a letter that may be missing, so the products have to be taken apart.
  have long : spelled "https://".toList =
      spelled "http".toList * spelled "s".toList * spelled "://".toList := by
    rw [← spelled_append, ← spelled_append]
    rfl
  rw [pieces, language_inOrder_word (by decide), language_inOrder_cons, language_optional,
    language_caseless (by decide), language_inOrder_word (by decide), short, long]
  show spelled "http".toList * ((1 + spelled "s".toList) *
    (spelled "://".toList * placePattern.language)) = _
  simp only [add_mul, mul_add, one_mul, mul_assoc]

/-- Behind the scheme stand two characters and some that are visible. -/
theorem mem_placePattern_iff {s : List Char} :
    s ∈ placePattern.language ↔ ∃ first second rest, s = first :: second :: rest ∧
      (Unicode.isBlank first = false ∧ first ∉ ['/', '$', '.', '?', '#']) ∧ second ≠ '\n' ∧
      ∀ c ∈ rest, Unicode.isBlank c = false := by
  constructor
  · rintro ⟨_, ⟨first, begins, rfl⟩, _, ⟨_, ⟨second, goesOn, rfl⟩, rest, ends, rfl⟩, rfl⟩
    have visible := (mem_loop_char_iff.mp ends).2
    exact ⟨first, second, rest, rfl, (accepts_firstTest_iff first).mp begins,
      (accepts_any_iff second).mp goesOn, fun c hc => (accepts_visibleTest_iff c).mp (visible c hc)⟩
  · rintro ⟨first, second, rest, rfl, begins, goesOn, ends⟩
    have visible := mem_loop_char_iff.mpr
      ⟨Nat.zero_le _, fun c hc => (accepts_visibleTest_iff c).mpr (ends c hc)⟩
    exact ⟨[first], ⟨first, (accepts_firstTest_iff first).mpr begins, rfl⟩, second :: rest,
      ⟨[second], ⟨second, (accepts_any_iff second).mpr goesOn, rfl⟩, rest, visible, rfl⟩, rfl⟩

/-- The format of web addresses takes texts of these parts. -/
theorem fullMatches_urlPattern_iff {s : List Char} :
    urlPattern.fullMatches s = true ↔
      ∃ scheme first second rest, IsWebAddress s scheme first second rest := by
  rw [fullMatches_iff isPlain_urlPattern, language_urlPattern]
  constructor
  · rintro ⟨scheme, schemes, _, place, rfl⟩
    obtain ⟨first, second, rest, rfl, begins, goesOn, ends⟩ := mem_placePattern_iff.mp place
    exact ⟨scheme, first, second, rest, rfl, schemes, begins, goesOn, ends⟩
  · rintro ⟨scheme, first, second, rest, rfl, schemes, begins, goesOn, ends⟩
    have place := mem_placePattern_iff.mpr ⟨first, second, rest, rfl, begins, goesOn, ends⟩
    exact ⟨scheme, schemes, _, place, rfl⟩

/-! ## White space -/

/-- Each character of a word in any case is a spelling of one of its characters. -/
theorem IsSpelled.exists_mem {word s : List Char} (h : IsSpelled word s) {d : Char} (hd : d ∈ s) :
    ∃ c ∈ word, d ∈ spellings c := by
  induction h with
  | nil => cases hd
  | cons spelling _ ih =>
      rcases List.mem_cons.mp hd with rfl | later
      · exact ⟨_, List.mem_cons_self, spelling⟩
      · obtain ⟨c, hc, spelling⟩ := ih later
        exact ⟨c, List.mem_cons_of_mem _ hc, spelling⟩

/-- No spelling of a letter or mark of a scheme is white space. -/
theorem IsScheme.not_isBlank {scheme : List Char} (h : IsScheme scheme) :
    ∀ c ∈ scheme, Unicode.isBlank c = false := by
  have visible : ∀ d ∈ "https://".toList.flatMap spellings, Unicode.isBlank d = false :=
    List.all_iff_forall_prop.mp (by decide +kernel)
  have spelledOf {word : List Char} (h : IsSpelled word scheme) (hword : word ⊆ "https://".toList) :
      ∀ d ∈ scheme, Unicode.isBlank d = false := by
    intro d hd
    obtain ⟨c, hc, spelling⟩ := h.exists_mem hd
    exact visible d (List.mem_flatMap.mpr ⟨c, hword hc, spelling⟩)
  rcases h with short | long
  · exact spelledOf short (by decide)
  · exact spelledOf long (List.Subset.refl _)

/-- White space can only be the second character behind the scheme. -/
theorem IsWebAddress.place_of_blank {s scheme rest : List Char} {first second : Char}
    (h : IsWebAddress s scheme first second rest) {before after : List Char} {c : Char}
    (place : s = before ++ c :: after) (blank : Unicode.isBlank c = true) :
    before = scheme ++ [first] ∧ c = second := by
  have opening : ∀ d ∈ scheme ++ [first], Unicode.isBlank d = false :=
    List.forall_mem_append.mpr ⟨h.scheme.not_isBlank, by simpa using h.first.1⟩
  have whole : (scheme ++ [first]) ++ second :: rest = before ++ c :: after := by
    rw [← place, h.parts, List.append_assoc]
    rfl
  -- Behind the opening only the second character can be blank, and within it none.
  rcases List.append_eq_append_iff.mp whole with ⟨passed, rfl, left⟩ | ⟨missing, opened, left⟩
  · cases passed with
    | nil =>
        cases left
        exact ⟨List.append_nil _, rfl⟩
    | cons d passed =>
        cases left
        have visible := h.rest c (by simp)
        exact Bool.noConfusion (blank.symm.trans visible)
  · cases missing with
    | nil =>
        cases left
        exact ⟨(opened.trans (List.append_nil _)).symm, rfl⟩
    | cons d missing =>
        cases left
        have visible := opening c (opened ▸ by simp)
        exact Bool.noConfusion (blank.symm.trans visible)

end FormRules.Predicate

namespace FormRules.StandardRule

/-- **Web addresses.**  Every text is decided: it passes exactly if it has the parts of a web
address.  White space can stand in such a text at one place only, behind the first character after
the scheme, and there all of it passes but the line feed. -/
theorem isURL_exact (text : String) :
    ∃ b, isURL.test (.str text) [] = .ok (.bool b) ∧
      (b = true ↔ ∃ scheme first second rest,
        Predicate.IsWebAddress text.toList scheme first second rest) ∧
      (b = true → ∀ before c after, text.toList = before ++ c :: after →
        Unicode.isBlank c = true →
          c ≠ '\n' ∧ ∃ scheme first, Predicate.IsScheme scheme ∧ before = scheme ++ [first]) := by
  have tested : isURL.test (.str text) [] =
      .ok (.bool (Predicate.urlPattern.fullMatches text.toList)) := test_str isURL text []
  refine ⟨_, tested, Predicate.fullMatches_urlPattern_iff, ?_⟩
  intro accepted before c after place blank
  obtain ⟨scheme, first, second, rest, parts⟩ := Predicate.fullMatches_urlPattern_iff.mp accepted
  obtain ⟨rfl, rfl⟩ := parts.place_of_blank place blank
  exact ⟨parts.second, scheme, first, parts.scheme, rfl⟩

example : ["http://a b", "HTTPS://a\tb", "http://a\u2003"].all fun text =>
    (isURL.test (.str text) []).toOption.any (· matches .bool true) := by
  decide +kernel

end FormRules.StandardRule
