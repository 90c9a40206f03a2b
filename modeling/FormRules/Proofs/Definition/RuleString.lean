/-
# Rule strings of definitions — the schema accepts what can be read

The form schema has its own description of rule strings, a pattern, apart from the code that reads
them.  The two differ in one respect that is meant: the pattern takes no exclamation mark within a
name.  Otherwise they agree on every text (`search_ruleStringPattern_iff`):

    pattern found in the text  ⟺  the text is read as rules, none of whose names holds a mark

The end of the pattern also matches before a line feed that ends the text.  That makes no
difference, because the last character of a rule may be a line feed (`extensible_ruleStringTexts`).

`rules_accepted_iff` says the same about whole documents: at the rules of a field the schema finds
nothing exactly if these can be read and have such names.
-/
import FormRules.Definition.FormSchema
import FormRules.Proofs.Pattern.Language
import FormRules.Proofs.Rule.Grammar
import FormRules.Proofs.Schema.Findings

namespace FormRules.FormDefinition

open Pattern Predicate Rule Schema
open scoped Computability

/-! ## Names and parameters -/

/-- A rule whose name holds no mark. -/
def IsMarkless (r : Rule) : Prop := inversion ∉ r.name.toList

/-- The texts of names, in the pattern. -/
def nameTexts : Language Char :=
  (oneOrMore (.char (.set true [one ',', one ':', one '!'] .exact))).language

/-- The texts of parameters, in the pattern. -/
def paramTexts : Language Char :=
  (oneOrMore (.char (.set true [one ',', one ':'] .exact))).language

theorem isPart_iff {w : List Char} :
    IsPart w ↔ w ≠ [] ∧ ∀ c ∈ w, c ∉ [ruleSeparator, paramSeparator] := by
  constructor
  · rintro ⟨hne, noRule, noParam⟩
    refine ⟨hne, fun c hc => ?_⟩
    simp only [List.mem_cons, List.not_mem_nil, or_false]
    rintro (rfl | rfl)
    · exact noRule hc
    · exact noParam hc
  · rintro ⟨hne, free⟩
    exact ⟨hne, fun hc => free _ hc (by simp), fun hc => free _ hc (by simp)⟩

theorem mem_paramTexts_iff {w : List Char} : w ∈ paramTexts ↔ IsPart w := by
  have accepted (c : Char) :
      (CharTest.set true [one ',', one ':'] .exact).accepts c = true ↔
        c ∉ [ruleSeparator, paramSeparator] :=
    accepts_except [',', ':'] (by simp) c
  simp only [paramTexts, mem_oneOrMore_char_iff, accepted, isPart_iff]

theorem mem_nameTexts_iff {w : List Char} : w ∈ nameTexts ↔ IsPart w ∧ inversion ∉ w := by
  have accepted (c : Char) :
      (CharTest.set true [one ',', one ':', one '!'] .exact).accepts c = true ↔
        c ∉ [ruleSeparator, paramSeparator] ++ [inversion] :=
    accepts_except [',', ':', '!'] (by simp) c
  simp only [nameTexts, mem_oneOrMore_char_iff, accepted, isPart_iff]
  constructor
  · rintro ⟨hne, free⟩
    exact ⟨⟨hne, fun c hc h => free c hc (List.mem_append_left _ h)⟩,
      fun mark => free _ mark (List.mem_append_right _ List.mem_cons_self)⟩
  · rintro ⟨⟨hne, free⟩, noMark⟩
    refine ⟨hne, fun c hc h => ?_⟩
    rcases List.mem_append.mp h with h | h
    · exact free c hc h
    · exact noMark (List.mem_singleton.mp h ▸ hc)

/-! ## Rules -/

theorem language_rulePattern :
    rulePattern.language =
      (1 + {[inversion]}) * (nameTexts * ({[paramSeparator]} * paramTexts)∗) := by
  have mark : (Predicate.literal '!').language = {[inversion]} := language_literal (by decide)
  have colon : (Predicate.literal ':').language = {[paramSeparator]} := language_literal (by decide)
  show (Predicate.optional (Predicate.literal '!')).language *
      (nameTexts * (many (.cat (Predicate.literal ':') _)).language) = _
  rw [language_optional, language_many, mark]
  show _ * (nameTexts * ((Predicate.literal ':').language * paramTexts)∗) = _
  rw [colon]

theorem mem_mark_iff {w : List Char} :
    w ∈ (1 + {[inversion]} : Language Char) ↔ ∃ inverse, w = marked inverse [] := by
  rw [Language.mem_add, Language.mem_one]
  constructor
  · rintro (rfl | rfl)
    · exact ⟨false, rfl⟩
    · exact ⟨true, rfl⟩
  · rintro ⟨_ | _, rfl⟩
    · exact .inl rfl
    · exact .inr rfl

/-- The pattern of a rule takes rules as they are written, with markless names. -/
theorem mem_rulePattern_iff {w : List Char} :
    w ∈ rulePattern.language ↔ ∃ r : Rule, r.IsWellFormed ∧ IsMarkless r ∧ r.renderChars = w := by
  rw [language_rulePattern, Language.mem_mul]
  simp only [mem_mark_iff, mem_separated_iff, mem_nameTexts_iff, mem_paramTexts_iff]
  constructor
  · rintro ⟨_, ⟨inverse, rfl⟩, _, ⟨name, params, ⟨hname, markless⟩, hparams, rfl⟩, rfl⟩
    refine ⟨⟨String.ofList name, inverse, params.map String.ofList⟩, ⟨?_, ?_, ?_⟩, ?_, ?_⟩
    · simpa using hname
    · intro p hp
      obtain ⟨q, hq, rfl⟩ := List.mem_map.mp hp
      simpa using hparams q hq
    · intro _ first
      rw [String.toList_ofList] at first
      exact markless (List.mem_of_mem_head? first)
    · simpa [IsMarkless] using markless
    · rw [renderChars_eq, join_marked]
      simp [Function.comp_def]
  · rintro ⟨r, h, markless, rfl⟩
    refine ⟨marked r.inverse [], ⟨r.inverse, rfl⟩, _,
      ⟨r.name.toList, r.params.map String.toList, ⟨h.name, markless⟩, ?_, rfl⟩, ?_⟩
    · intro p hp
      obtain ⟨q, hq, rfl⟩ := List.mem_map.mp hp
      exact h.params q hq
    · rw [renderChars_eq, join_marked]

/-! ## Rule strings -/

/-- The pattern of rule strings without its anchors. -/
def ruleStringTexts : Language Char :=
  rulePattern.language * ({[ruleSeparator]} * rulePattern.language)∗

/-- Each piece of a rule string is a rule. -/
theorem mem_ruleStringTexts_iff_pieces {w : List Char} :
    w ∈ ruleStringTexts ↔ ∀ piece ∈ Text.split ruleSeparator w, piece ∈ rulePattern.language := by
  rw [ruleStringTexts, mem_separated_iff]
  constructor
  · rintro ⟨first, rest, hfirst, hrest, joined⟩
    have all : ∀ piece ∈ first :: rest, piece ∈ rulePattern.language :=
      List.forall_mem_cons.mpr ⟨hfirst, hrest⟩
    have cut : Text.split ruleSeparator w = first :: rest := by
      refine Text.split_eq_iff.mpr ⟨List.cons_ne_nil _ _, fun piece hpiece => ?_, joined⟩
      obtain ⟨r, h, -, rfl⟩ := mem_rulePattern_iff.mp (all piece hpiece)
      exact h.noRuleSeparator
    rwa [cut]
  · intro all
    obtain ⟨first, rest, cut⟩ := List.exists_cons_of_ne_nil (Text.split_ne_nil ruleSeparator w)
    rw [cut] at all
    obtain ⟨hfirst, hrest⟩ := List.forall_mem_cons.mp all
    exact ⟨first, rest, hfirst, hrest, cut ▸ Text.join_split ruleSeparator w⟩

theorem mem_ruleStringTexts_iff {s : String} :
    s.toList ∈ ruleStringTexts ↔ ∃ rules, Rule.parse s = .ok rules ∧ ∀ r ∈ rules, IsMarkless r := by
  simp only [mem_ruleStringTexts_iff_pieces, mem_rulePattern_iff]
  constructor
  · intro written
    obtain ⟨rules, read⟩ : ∃ rules, Rule.parse s = .ok rules := by
      refine exists_mapM_eq_ok_iff.mpr fun piece hpiece => ?_
      obtain ⟨r, h, -, rfl⟩ := written piece hpiece
      exact ⟨r, ofPiece_renderChars s h⟩
    refine ⟨rules, read, fun r hr => ?_⟩
    obtain ⟨wellFormed, pieces⟩ := parse_eq_ok_iff_pieces.mp read
    obtain ⟨r', h', markless, alike⟩ :=
      written r.renderChars (pieces ▸ List.mem_map_of_mem hr)
    rwa [eq_of_renderChars_eq (wellFormed r hr) h' alike.symm]
  · rintro ⟨rules, read, markless⟩ piece hpiece
    obtain ⟨wellFormed, pieces⟩ := parse_eq_ok_iff_pieces.mp read
    obtain ⟨r, hr, rfl⟩ := List.mem_map.mp (pieces ▸ hpiece)
    exact ⟨r, wellFormed r hr, markless r hr, rfl⟩

/-! ## A line feed at the end

Parameters, names, rules and rule strings may all end with a line feed. -/

theorem extensible_paramTexts : Extensible ['\n'] paramTexts := by
  intro w hw
  simp only [mem_paramTexts_iff, isPart_iff] at hw ⊢
  refine ⟨by simp, fun c hc => ?_⟩
  rcases List.mem_append.mp hc with hc | hc
  · exact hw.2 c hc
  · rw [List.mem_singleton.mp hc]
    decide

theorem extensible_nameTexts : Extensible ['\n'] nameTexts := by
  intro w hw
  rw [mem_nameTexts_iff] at hw ⊢
  refine ⟨mem_paramTexts_iff.mp (extensible_paramTexts w (mem_paramTexts_iff.mpr hw.1)), ?_⟩
  rw [List.mem_append, not_or]
  exact ⟨hw.2, by decide⟩

theorem extensible_rulePattern : Extensible ['\n'] rulePattern.language := by
  rw [language_rulePattern]
  exact (extensible_nameTexts.mul_kstar extensible_paramTexts.mul).mul

theorem extensible_ruleStringTexts : Extensible ['\n'] ruleStringTexts :=
  extensible_rulePattern.mul_kstar extensible_rulePattern.mul

/-! ## The whole pattern -/

/-- The pattern of rule strings without its anchors. -/
def unanchored : Pattern := .cat rulePattern (many (.cat (Predicate.literal ',') rulePattern))

theorem language_unanchored : unanchored.language = ruleStringTexts := by
  have comma : (Predicate.literal ',').language = {[ruleSeparator]} := language_literal (by decide)
  show rulePattern.language * (many (.cat (Predicate.literal ',') rulePattern)).language = _
  rw [language_many]
  show _ * ((Predicate.literal ',').language * rulePattern.language)∗ = _
  rw [comma, ruleStringTexts]

theorem isPlain_unanchored : unanchored.IsPlain := by
  simp [unanchored, rulePattern, inOrder, many, oneOrMore, Predicate.optional, Predicate.literal,
    IsPlain]

/-- The anchors stand around the rest of the pattern. -/
theorem search_ruleStringPattern (s : List Char) :
    ruleStringPattern.search s =
      (cat (.anchor .textStart) (.cat unanchored (.anchor .lastLineEnd))).search s := by
  show (cat (.anchor .textStart) (.cat rulePattern (.cat _ (.anchor .lastLineEnd)))).search s = _
  rw [search_textStart, search_textStart]
  rfl

/-- **The pattern describes what can be read** into rules with markless names. -/
theorem search_ruleStringPattern_iff {s : String} :
    ruleStringPattern.search s.toList = true ↔
      ∃ rules, Rule.parse s = .ok rules ∧ ∀ r ∈ rules, IsMarkless r := by
  rw [search_ruleStringPattern, search_lines_iff isPlain_unanchored, language_unanchored,
    ← mem_ruleStringTexts_iff]
  constructor
  · rintro (found | ⟨w, found, whole⟩)
    · exact found
    · rw [whole]
      exact extensible_ruleStringTexts w found
  · exact .inl

/-! ## Documents -/

/-- About the rules of a field the schema finds what the pattern does. -/
theorem reports_rules_iff {document : Value} {index : Nat} {s : String}
    (given : document.at? [.member "fields", .item index, .member "rules"] = some (.str s)) :
    schema.Reports document [.member "fields", .item index, .member "rules"] ↔
      ruleStringPattern.search s.toList = false := by
  simp only [Value.at?_cons_eq_some_iff] at given
  obtain ⟨fields, hfields, field, hfield, _, hrules, ⟨⟩⟩ := given
  have below_fields : schema.Reports document [.member "fields", .item index, .member "rules"] ↔
      Reports (.keywords [.type .array, .items fieldSchema]) fields
        [.item index, .member "rules"] := by
    rw [schema, reports_member_iff (.tail _ (.tail _ (.tail _ (.head _)))) (by simp [IsLocal])]
    simp [hfields]
  have below_item : Reports (.keywords [.type .array, .items fieldSchema]) fields
        [.item index, .member "rules"] ↔ fieldSchema.Reports field [.member "rules"] := by
    rw [reports_item_iff (.tail _ (.head _)) (by simp [IsLocal])]
    simp [hfield]
  have below_rules : fieldSchema.Reports field [.member "rules"] ↔
      Reports (.keywords [.type .string, .matching ruleStringSource ruleStringPattern]) (.str s)
        [] := by
    rw [fieldSchema, reports_member_iff (.tail _ (.tail _ (.tail _ (.head _)))) (by simp [IsLocal])]
    simp [hrules]
  rw [below_fields, below_item, below_rules]
  simp [Reports, findings, findingsOfAll, findingsOf, Kind.holds, Value.opened, here]

/-- **The schema accepts the rules of a field exactly if they can be read** into rules with markless
names. -/
theorem rules_accepted_iff {document : Value} {index : Nat} {s : String}
    (given : document.at? [.member "fields", .item index, .member "rules"] = some (.str s)) :
    ¬ schema.Reports document [.member "fields", .item index, .member "rules"] ↔
      ∃ rules, Rule.parse s = .ok rules ∧ ∀ r ∈ rules, inversion ∉ r.name.toList := by
  rw [reports_rules_iff given, Bool.not_eq_false, search_ruleStringPattern_iff]
  rfl

/-- A definition with one field that has these rules. -/
def withRules (s : String) : Value :=
  .map [(.str "form", .str "f"),
    (.str "fields", .list [.map [(.str "name", .str "a"), (.str "rules", .str s)]])]

theorem at?_withRules (s : String) :
    (withRules s).at? [.member "fields", .item 0, .member "rules"] = some (.str s) := by
  rfl

/-- A line feed may be part of a name, and a mark may not, although both can be read. -/
theorem rules_accepted_line_feed :
    ¬ schema.Reports (withRules "!min:3,x\n") [.member "fields", .item 0, .member "rules"] ∧
      schema.Reports (withRules "a!b") [.member "fields", .item 0, .member "rules"] := by
  constructor
  · have read : Rule.parse "!min:3,x\n" = .ok [⟨"min", true, ["3"]⟩, ⟨"x\n", false, []⟩] := by rfl
    exact (rules_accepted_iff (at?_withRules _)).mpr ⟨_, read, by decide⟩
  · have read : Rule.parse "a!b" = .ok [⟨"a!b", false, []⟩] := by rfl
    by_contra accepted
    obtain ⟨rules, again, markless⟩ := (rules_accepted_iff (at?_withRules _)).mp accepted
    obtain rfl := Except.ok.inj (read.symm.trans again)
    exact absurd (markless _ List.mem_cons_self) (by decide)

end FormRules.FormDefinition
