/-
# Grammar — rule strings are read and printed exactly

    rules = rule ("," rule)*
    rule  = ["!"] name (":" param)*

An exclamation mark at the beginning of a rule is always the mark of inversion, so `!!a` is the
inverted rule of the name `!a`, and `!` alone is no rule.  Reading is compared with printing: a rule
is *well formed* if its name and parameters are not empty and free of both separators, and its name
does not look like a mark that it has not.

    ofPiece whole piece = .ok r      ⟺  r is well formed and printed as the piece
    parse text          = .ok rules  ⟺  the rules are well formed, at least one, and printed as
                                        the text

So reading is the inverse of printing on well-formed rules (`parse_eq_ok_iff`), and it fails on
every other text.
-/
import FormRules.Proofs.Outcome
import FormRules.Proofs.Text.Pieces
import FormRules.Rule.Parser

namespace FormRules

namespace Rule

/-! ## What is printed -/

/-- A text that can be a name or a parameter. -/
structure IsPart (text : List Char) : Prop where
  ne_nil : text ≠ []
  noRuleSeparator : ruleSeparator ∉ text
  noParamSeparator : paramSeparator ∉ text

/-- A rule that a rule string can hold. -/
structure IsWellFormed (r : Rule) : Prop where
  name : IsPart r.name.toList
  params : ∀ p ∈ r.params, IsPart p.toList
  unmarked : r.inverse = false → r.name.toList.head? ≠ some inversion

/-- The name of a rule with its mark. -/
def marked (inverse : Bool) (name : List Char) : List Char :=
  if inverse then inversion :: name else name

theorem renderChars_eq (r : Rule) :
    r.renderChars =
      Text.join paramSeparator (marked r.inverse r.name.toList :: r.params.map String.toList) :=
  rfl

theorem mem_marked {c : Char} (hc : c ≠ inversion) (inverse : Bool) (name : List Char) :
    c ∈ marked inverse name ↔ c ∈ name := by
  cases inverse <;> simp [marked, hc]

/-- What is taken off gives the whole back, and a name that is left unmarked does not begin with
a mark. -/
theorem splitInversion_spec (head : List Char) :
    marked (splitInversion head).1 (splitInversion head).2 = head ∧
      ((splitInversion head).1 = false → (splitInversion head).2.head? ≠ some inversion) := by
  unfold splitInversion
  split
  · exact ⟨rfl, fun h => nomatch h⟩
  · rename_i other
    exact ⟨rfl, fun _ first => other _ (List.eq_cons_of_mem_head? first)⟩

theorem splitInversion_marked {inverse : Bool} {name : List Char}
    (h : inverse = false → name.head? ≠ some inversion) :
    splitInversion (marked inverse name) = (inverse, name) := by
  cases inverse with
  | true => rfl
  | false =>
      unfold splitInversion marked
      split
      · rename_i rest marked
        exact absurd (congrArg List.head? marked) (h rfl)
      · rfl

/-! ## One rule -/

/-- The parts of a rule as it is written, between the separators of parameters. -/
theorem split_renderChars {r : Rule} (h : r.IsWellFormed) :
    Text.split paramSeparator r.renderChars =
      marked r.inverse r.name.toList :: r.params.map String.toList := by
  have notMark : paramSeparator ≠ inversion := by decide
  refine Text.split_eq_iff.mpr ⟨List.cons_ne_nil _ _, ?_, rfl⟩
  intro piece hpiece
  rcases List.mem_cons.mp hpiece with rfl | hpiece
  · rw [mem_marked notMark]
    exact h.name.noParamSeparator
  · obtain ⟨p, hp, rfl⟩ := List.mem_map.mp hpiece
    exact (h.params p hp).noParamSeparator

/-- No separator between rules is written within a rule. -/
theorem IsWellFormed.noRuleSeparator {r : Rule} (h : r.IsWellFormed) :
    ruleSeparator ∉ r.renderChars := by
  have apart : ruleSeparator ≠ paramSeparator := by decide
  have notMark : ruleSeparator ≠ inversion := by decide
  rw [renderChars_eq, Text.mem_join_iff apart]
  rintro ⟨piece, hpiece, mem⟩
  rcases List.mem_cons.mp hpiece with rfl | hpiece
  · exact h.name.noRuleSeparator ((mem_marked notMark ..).mp mem)
  · obtain ⟨p, hp, rfl⟩ := List.mem_map.mp hpiece
    exact (h.params p hp).noRuleSeparator mem

theorem ofPiece_renderChars (whole : String) {r : Rule} (h : r.IsWellFormed) :
    ofPiece whole r.renderChars = .ok r := by
  have named : r.name.toList.isEmpty = false := by simpa using h.name.ne_nil
  have given : (r.params.map String.toList).any List.isEmpty = false := by
    simpa using fun p hp => (h.params p hp).ne_nil
  rw [ofPiece, split_renderChars h]
  simp only [splitInversion_marked h.unmarked, named, given, Bool.false_eq_true, if_false]
  simp [String.ofList_toList]

/-- Well-formed rules that are written alike are equal. -/
theorem eq_of_renderChars_eq {r r' : Rule} (h : r.IsWellFormed) (h' : r'.IsWellFormed)
    (alike : r.renderChars = r'.renderChars) : r = r' := by
  have read := ofPiece_renderChars "" h
  rw [alike, ofPiece_renderChars "" h'] at read
  exact (Except.ok.inj read).symm

/-- What is read from a piece is a rule that is written as the piece. -/
theorem ofPiece_eq_ok_iff {whole : String} {piece : List Char} {r : Rule}
    (hpiece : ruleSeparator ∉ piece) :
    ofPiece whole piece = .ok r ↔ r.IsWellFormed ∧ r.renderChars = piece := by
  refine ⟨fun read => ?_, fun ⟨h, written⟩ => written ▸ ofPiece_renderChars whole h⟩
  unfold ofPiece at read
  split at read
  · cases read
  · rename_i head params cut
    obtain ⟨remade, unmarked⟩ := splitInversion_spec head
    rcases taken : splitInversion head with ⟨inverse, name⟩
    simp only [taken] at read remade unmarked
    split at read
    · cases read
    · rename_i named
      split at read
      · cases read
      · rename_i given
        obtain rfl := Except.ok.inj read
        obtain ⟨-, free, joined⟩ := Text.split_eq_iff.mp cut
        have free' (part : List Char) (h : part ∈ head :: params) : ruleSeparator ∉ part :=
          fun mem => hpiece (Text.mem_of_mem_split (cut ▸ h) mem)
        have ofHead {c : Char} (hc : c ≠ inversion) (h : c ∉ head) : c ∉ name := by
          rw [← remade, mem_marked hc] at h
          exact h
        have name_isPart : IsPart name :=
          ⟨by simpa using named, ofHead (by decide) (free' head List.mem_cons_self),
            ofHead (by decide) (free head List.mem_cons_self)⟩
        have params_arePart (p : List Char) (hp : p ∈ params) : IsPart p :=
          ⟨fun empty => given (List.any_eq_true.mpr ⟨p, hp, by simp [empty]⟩),
            free' p (List.mem_cons_of_mem _ hp), free p (List.mem_cons_of_mem _ hp)⟩
        refine ⟨⟨by simpa using name_isPart, ?_, by simpa using unmarked⟩, ?_⟩
        · intro p hp
          obtain ⟨q, hq, rfl⟩ := List.mem_map.mp hp
          simpa using params_arePart q hq
        · rw [renderChars_eq, ← joined, ← remade]
          simp [Function.comp_def]

/-! ## Whole rule strings -/

theorem toList_renderAll (rules : List Rule) :
    (renderAll rules).toList = Text.join ruleSeparator (rules.map renderChars) := by
  simp [renderAll]

/-- Rules in one string are rules as they are written, with commas between them. -/
theorem renderAll_eq_intercalate (rules : List Rule) :
    renderAll rules = ",".intercalate (rules.map render) := by
  have comma : (",".toList : List Char) = [ruleSeparator] := rfl
  refine String.toList_inj.mp ?_
  rw [toList_renderAll, String.toList_intercalate, comma, Text.join_eq_intercalate]
  simp [render, Function.comp_def]

/-- Rules that are read from a string are written as its pieces, one for each. -/
theorem parse_eq_ok_iff_pieces {text : String} {rules : List Rule} :
    parse text = .ok rules ↔ (∀ r ∈ rules, r.IsWellFormed) ∧
      Text.split ruleSeparator text.toList = rules.map renderChars := by
  rw [parse, mapM_eq_ok_iff]
  constructor
  · intro read
    have each : List.Forall₂ (fun piece r => r.IsWellFormed ∧ r.renderChars = piece)
        (Text.split ruleSeparator text.toList) rules :=
      ((List.forall₂_and_left ..).mpr ⟨fun _ => Text.not_mem_of_mem_split, read⟩).imp
        fun _ _ h => (ofPiece_eq_ok_iff h.1).mp h.2
    obtain ⟨wellFormed, written⟩ := (List.forall₂_and_left ..).mp each.flip
    refine ⟨wellFormed, ?_⟩
    have equal := List.forall₂_map_left_iff.mpr written
    rw [List.forall₂_eq_eq_eq] at equal
    exact equal.symm
  · rintro ⟨wellFormed, pieces⟩
    rw [pieces, List.forall₂_map_left_iff, List.forall₂_same]
    exact fun r hr => ofPiece_renderChars text (wellFormed r hr)

/-- **Reading is the inverse of printing.**  A string is read as some rules exactly if they are well
formed, at least one, and printed as that string. -/
theorem parse_eq_ok_iff {text : String} {rules : List Rule} :
    parse text = .ok rules ↔
      rules ≠ [] ∧ (∀ r ∈ rules, r.IsWellFormed) ∧ renderAll rules = text := by
  rw [parse_eq_ok_iff_pieces, Text.split_eq_iff]
  have printed : Text.join ruleSeparator (rules.map renderChars) = text.toList ↔
      renderAll rules = text := by
    rw [← toList_renderAll, String.toList_inj]
  rw [printed]
  constructor
  · rintro ⟨wellFormed, hne, -, written⟩
    exact ⟨fun empty => hne (empty ▸ rfl), wellFormed, written⟩
  · rintro ⟨hne, wellFormed, written⟩
    refine ⟨wellFormed, fun empty => hne (List.map_eq_nil_iff.mp empty), ?_, written⟩
    intro piece hpiece
    obtain ⟨r, hr, rfl⟩ := List.mem_map.mp hpiece
    exact (wellFormed r hr).noRuleSeparator

/-! ## The grammar in words -/

/-- A text that is a name with an optional mark, and parameters.  A mark at the beginning is always
that of inversion. -/
def IsRuleText (text : List Char) : Prop :=
  ∃ mark name params, (mark = [inversion] ∨ mark = [] ∧ name.head? ≠ some inversion) ∧
    (∀ part ∈ name :: params, part ≠ [] ∧ paramSeparator ∉ part) ∧
    text = mark ++ Text.join paramSeparator (name :: params)

theorem join_marked (inverse : Bool) (name : List Char) (params : List (List Char)) :
    Text.join paramSeparator (marked inverse name :: params) =
      marked inverse [] ++ Text.join paramSeparator (name :: params) := by
  cases inverse with
  | false => rfl
  | true => cases params <;> rfl

/-- A piece of a rule string is in the grammar exactly if it is a rule as it is written. -/
theorem isRuleText_iff {piece : List Char} (hpiece : ruleSeparator ∉ piece) :
    IsRuleText piece ↔ ∃ r : Rule, r.IsWellFormed ∧ r.renderChars = piece := by
  constructor
  · rintro ⟨mark, name, params, hmark, hparts, rfl⟩
    obtain ⟨inverse, rfl, unmarked⟩ : ∃ inverse, mark = marked inverse [] ∧
        (inverse = false → name.head? ≠ some inversion) := by
      rcases hmark with rfl | ⟨rfl, unmarked⟩
      · exact ⟨true, rfl, fun h => nomatch h⟩
      · exact ⟨false, rfl, fun _ => unmarked⟩
    have arePart (part : List Char) (h : part ∈ name :: params) : IsPart part := by
      refine ⟨(hparts part h).1, fun mem => hpiece ?_, (hparts part h).2⟩
      have apart : ruleSeparator ≠ paramSeparator := by decide
      exact List.mem_append_right _ ((Text.mem_join_iff apart).mpr ⟨part, h, mem⟩)
    refine ⟨⟨String.ofList name, inverse, params.map String.ofList⟩, ⟨?_, ?_, ?_⟩, ?_⟩
    · simpa using arePart name List.mem_cons_self
    · intro p hp
      obtain ⟨q, hq, rfl⟩ := List.mem_map.mp hp
      simpa using arePart q (List.mem_cons_of_mem _ hq)
    · simpa using unmarked
    · rw [renderChars_eq, join_marked]
      simp [Function.comp_def]
  · rintro ⟨r, h, rfl⟩
    refine ⟨marked r.inverse [], r.name.toList, r.params.map String.toList, ?_, ?_, ?_⟩
    · cases inverse : r.inverse with
      | true => exact .inl rfl
      | false => exact .inr ⟨rfl, h.unmarked inverse⟩
    · intro part hpart
      rcases List.mem_cons.mp hpart with rfl | hpart
      · exact ⟨h.name.ne_nil, h.name.noParamSeparator⟩
      · obtain ⟨p, hp, rfl⟩ := List.mem_map.mp hpart
        exact ⟨(h.params p hp).ne_nil, (h.params p hp).noParamSeparator⟩
    · rw [renderChars_eq, join_marked]

/-- A string is read exactly if every piece of it is in the grammar. -/
theorem exists_parse_eq_ok_iff {text : String} :
    (∃ rules, parse text = .ok rules) ↔
      ∀ piece ∈ text.toList.splitOn ruleSeparator, IsRuleText piece := by
  rw [parse, exists_mapM_eq_ok_iff, ← Text.split_eq_splitOn]
  refine forall₂_congr fun piece hpiece => ?_
  have free := Text.not_mem_of_mem_split hpiece
  simp only [ofPiece_eq_ok_iff free, isRuleText_iff free]

/-- **Rule strings are read and printed exactly.**  Reading succeeds on the strings whose pieces are
all in the grammar, what is read is printed as the string that was given, and what is printed from
well-formed rules is read back. -/
theorem parse_exact (text : String) (rules : List Rule) :
    ((∃ rules, parse text = .ok rules) ↔
        ∀ piece ∈ text.toList.splitOn ruleSeparator, IsRuleText piece) ∧
      (parse text = .ok rules → ",".intercalate (rules.map render) = text) ∧
      (rules ≠ [] → (∀ r ∈ rules, r.IsWellFormed) →
        parse (",".intercalate (rules.map render)) = .ok rules) := by
  refine ⟨exists_parse_eq_ok_iff, fun read => ?_, fun hne wellFormed => ?_⟩
  · rw [← renderAll_eq_intercalate]
    exact (parse_eq_ok_iff.mp read).2.2
  · rw [← renderAll_eq_intercalate]
    exact parse_eq_ok_iff.mpr ⟨hne, wellFormed, rfl⟩

/-- A second mark belongs to the name. -/
theorem parse_exact_marked_twice :
    (∀ piece ∈ "!!a:b,x".toList.splitOn ruleSeparator, IsRuleText piece) ∧
      ",".intercalate ([⟨"!a", true, ["b"]⟩, ⟨"x", false, []⟩].map render) = "!!a:b,x" ∧
      parse (",".intercalate ([⟨"!a", true, ["b"]⟩, ⟨"x", false, []⟩].map render)) =
        .ok [⟨"!a", true, ["b"]⟩, ⟨"x", false, []⟩] := by
  obtain ⟨readable, printed, read⟩ :=
    parse_exact "!!a:b,x" [⟨"!a", true, ["b"]⟩, ⟨"x", false, []⟩]
  have here : parse "!!a:b,x" = .ok [⟨"!a", true, ["b"]⟩, ⟨"x", false, []⟩] := by rfl
  obtain ⟨hne, wellFormed, -⟩ := parse_eq_ok_iff.mp here
  exact ⟨readable.mp ⟨_, here⟩, printed here, read hne wellFormed⟩

example : parse "!" = .error (.emptyRuleName "!") := by rfl

end Rule

end FormRules
