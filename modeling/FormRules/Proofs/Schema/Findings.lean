/-
# Findings — what a schema finds about the parts of a value

A part of a value is reached by steps to a member or to an item (`Value.part?`).  A finding has the
path of the part that it is about, so the findings about a part are those that the schema of this
part has:

    schema                          finds at           exactly if
    keywords ks                     path               one of the keywords does
    members, with `name : s`        name :: path       `s` finds it at `path` in that member
    items s                         i :: path          `s` finds it at `path` in that item
    any other keyword but others    step :: path       never

`Schema.Reports` is this relation.
-/
import FormRules.Schema.Basic
import Mathlib.Data.List.Basic

namespace FormRules

open Schema

namespace Value

/-- The part of a value that a step leads to, if there is one. -/
def part? (v : Value) : Step → Option Value
  | .member name => match v.opened with
    | .map entries => Table.find? entries (.str name)
    | _ => none
  | .item index => match v.opened with
    | .list xs => xs[index]?
    | _ => none

/-- The part of a value at a path, if there is one. -/
def at? (v : Value) (path : Path) : Option Value := path.foldlM part? v

theorem part?_member_eq_some_iff {v u : Value} {name : String} :
    v.part? (.member name) = some u ↔
      ∃ entries, v.opened = .map entries ∧ Table.find? entries (.str name) = some u := by
  unfold part?
  cases v.opened <;> simp

theorem part?_item_eq_some_iff {v u : Value} {index : Nat} :
    v.part? (.item index) = some u ↔ ∃ xs, v.opened = .list xs ∧ xs[index]? = some u := by
  unfold part?
  cases v.opened <;> simp

theorem at?_cons_eq_some_iff {v u : Value} {step : Step} {path : Path} :
    v.at? (step :: path) = some u ↔ ∃ part, v.part? step = some part ∧ part.at? path = some u := by
  simp [at?, Option.bind_eq_some_iff]

end Value

namespace Schema

/-- A schema finds something about the part of a value at a path. -/
def Reports (s : Schema) (v : Value) (path : Path) : Prop := ∃ f ∈ s.findings v, f.path = path

/-- A keyword finds something about the part of a value at a path. -/
def KeywordReports (k : Keyword) (v : Value) (path : Path) : Prop :=
  ∃ f ∈ findingsOf k v, f.path = path

attribute [local simp] findingsOf findingsOfAll findingsOfMembers satisfiesSome

theorem mem_findingsOfAll {ks : List Keyword} {v : Value} {f : Finding} :
    f ∈ findingsOfAll ks v ↔ ∃ k ∈ ks, f ∈ findingsOf k v := by
  induction ks with
  | nil => simp
  | cons k rest ih => simp [ih]

theorem mem_findingsOfMembers {schemas : List (String × Schema)} {entries : List (Value × Value)}
    {f : Finding} :
    f ∈ findingsOfMembers schemas entries ↔ ∃ e ∈ schemas, ∃ u,
      Table.find? entries (.str e.1) = some u ∧
        ∃ g ∈ e.2.findings u, g.below (.member e.1) = f := by
  induction schemas with
  | nil => simp
  | cons e rest ih =>
      obtain ⟨name, schema⟩ := e
      cases found : Table.find? entries (.str name) <;> simp [ih, found]

theorem mem_findingsOf_members {schemas : List (String × Schema)} {v : Value} {f : Finding} :
    f ∈ findingsOf (.members schemas) v ↔ ∃ name s u, (name, s) ∈ schemas ∧
      v.part? (.member name) = some u ∧ ∃ g ∈ s.findings u, g.below (.member name) = f := by
  simp only [Value.part?_member_eq_some_iff, findingsOf]
  cases v.opened with
  | map entries =>
      simp only [mem_findingsOfMembers, Prod.exists, Value.map.injEq, exists_eq_left']
      constructor
      · rintro ⟨name, s, hs, u, part, found⟩
        exact ⟨name, s, u, hs, part, found⟩
      · rintro ⟨name, s, u, hs, part, found⟩
        exact ⟨name, s, hs, u, part, found⟩
  | _ => simp

theorem mem_findingsOf_items {s : Schema} {v : Value} {f : Finding} :
    f ∈ findingsOf (.items s) v ↔ ∃ index u, v.part? (.item index) = some u ∧
      ∃ g ∈ s.findings u, g.below (.item index) = f := by
  simp only [Value.part?_item_eq_some_iff, findingsOf]
  cases v.opened with
  | list xs =>
      simp only [List.mem_flatMap, List.mem_map, Prod.exists, List.mem_zipIdx_iff_getElem?,
        Value.list.injEq, exists_eq_left']
      constructor
      · rintro ⟨u, index, here, found⟩
        exact ⟨index, u, here, found⟩
      · rintro ⟨index, u, here, found⟩
        exact ⟨u, index, here, found⟩
  | _ => simp

/-! ## Findings at a path -/

theorem reports_keywords_iff {ks : List Keyword} {v : Value} {path : Path} :
    Reports (.keywords ks) v path ↔ ∃ k ∈ ks, KeywordReports k v path := by
  simp only [Reports, KeywordReports, findings, mem_findingsOfAll]
  constructor
  · rintro ⟨f, ⟨k, hk, hf⟩, at_path⟩
    exact ⟨k, hk, f, hf, at_path⟩
  · rintro ⟨k, hk, f, hf, at_path⟩
    exact ⟨f, ⟨k, hk, hf⟩, at_path⟩

/-- A finding below a step is one at the rest of the path. -/
theorem exists_below_iff {s : Schema} {v : Value} {step step' : Step} {path : Path} :
    (∃ g ∈ s.findings v, (g.below step).path = step' :: path) ↔
      step = step' ∧ Reports s v path := by
  simp only [Finding.below, List.cons.injEq]
  constructor
  · rintro ⟨g, hg, same, at_path⟩
    exact ⟨same, g, hg, at_path⟩
  · rintro ⟨same, g, hg, at_path⟩
    exact ⟨g, hg, same, at_path⟩

theorem reports_members_iff {schemas : List (String × Schema)} {v : Value} {name : String}
    {path : Path} :
    KeywordReports (.members schemas) v (.member name :: path) ↔
      ∃ s u, (name, s) ∈ schemas ∧ v.part? (.member name) = some u ∧ Reports s u path := by
  constructor
  · rintro ⟨f, hf, at_path⟩
    obtain ⟨name', s, u, hs, part, g, hg, rfl⟩ := mem_findingsOf_members.mp hf
    obtain ⟨same, found⟩ := exists_below_iff.mp ⟨g, hg, at_path⟩
    obtain rfl := Step.member.inj same
    exact ⟨s, u, hs, part, found⟩
  · rintro ⟨s, u, hs, part, found⟩
    obtain ⟨g, hg, at_path⟩ := exists_below_iff.mpr ⟨rfl, found⟩
    exact ⟨_, mem_findingsOf_members.mpr ⟨name, s, u, hs, part, g, hg, rfl⟩, at_path⟩

theorem reports_items_iff {s : Schema} {v : Value} {index : Nat} {path : Path} :
    KeywordReports (.items s) v (.item index :: path) ↔
      ∃ u, v.part? (.item index) = some u ∧ Reports s u path := by
  constructor
  · rintro ⟨f, hf, at_path⟩
    obtain ⟨index', u, part, g, hg, rfl⟩ := mem_findingsOf_items.mp hf
    obtain ⟨same, found⟩ := exists_below_iff.mp ⟨g, hg, at_path⟩
    obtain rfl := Step.item.inj same
    exact ⟨u, part, found⟩
  · rintro ⟨u, part, found⟩
    obtain ⟨g, hg, at_path⟩ := exists_below_iff.mpr ⟨rfl, found⟩
    exact ⟨_, mem_findingsOf_items.mpr ⟨index, u, part, g, hg, rfl⟩, at_path⟩

/-- A keyword that speaks of the value itself. -/
def IsLocal : Keyword → Prop
  | .members _ | .others _ | .items _ => False
  | _ => True

theorem path_of_mem_here {violation : Violation} {f : Finding} (h : f ∈ here violation) :
    f.path = [] := by
  rw [List.mem_singleton.mp h]

theorem path_of_mem_unless {c : Prop} [Decidable c] {violation : Violation} {f : Finding}
    (h : f ∈ if c then [] else here violation) : f.path = [] := by
  split at h
  · cases h
  · exact path_of_mem_here h

theorem path_of_isLocal {k : Keyword} (hk : IsLocal k) {v : Value} {f : Finding}
    (hf : f ∈ findingsOf k v) : f.path = [] := by
  cases k with
  | members _ | others _ | items _ => exact hk.elim
  | type _ | oneOf _ | someOf _ =>
      rw [findingsOf] at hf
      exact path_of_mem_unless hf
  | required names =>
      rw [findingsOf] at hf
      split at hf
      · obtain ⟨name, -, hf⟩ := List.mem_flatMap.mp hf
        exact path_of_mem_here hf
      · cases hf
  | closed names =>
      rw [findingsOf] at hf
      split at hf
      · split at hf
        · cases hf
        · exact path_of_mem_here hf
      · cases hf
  | leastLength n =>
      cases v with
      | str s =>
          rw [findingsOf] at hf
          split at hf
          · exact path_of_mem_here hf
          · cases hf
      | _ => simp at hf
  | matching source pattern =>
      cases v with
      | str s =>
          rw [findingsOf] at hf
          exact path_of_mem_unless hf
      | _ => simp at hf

theorem not_reports_of_isLocal {k : Keyword} (hk : IsLocal k) (v : Value) (step : Step)
    (path : Path) : ¬ KeywordReports k v (step :: path) := by
  rintro ⟨f, hf, at_path⟩
  rw [path_of_isLocal hk hf] at at_path
  cases at_path

/-- Below a member only the schema of that member finds something. -/
theorem reports_member_iff {ks : List Keyword} {schemas : List (String × Schema)}
    (hks : .members schemas ∈ ks) (hlocal : ∀ k ∈ ks, k = .members schemas ∨ IsLocal k) {v : Value}
    {name : String} {path : Path} :
    Reports (.keywords ks) v (.member name :: path) ↔
      ∃ s u, (name, s) ∈ schemas ∧ v.part? (.member name) = some u ∧ Reports s u path := by
  rw [reports_keywords_iff, ← reports_members_iff]
  constructor
  · rintro ⟨k, hk, found⟩
    rcases hlocal k hk with rfl | local_k
    · exact found
    · exact absurd found (not_reports_of_isLocal local_k _ _ _)
  · exact fun found => ⟨_, hks, found⟩

/-- Below an item only the schema of items finds something. -/
theorem reports_item_iff {ks : List Keyword} {s : Schema} (hks : .items s ∈ ks)
    (hlocal : ∀ k ∈ ks, k = .items s ∨ IsLocal k) {v : Value} {index : Nat} {path : Path} :
    Reports (.keywords ks) v (.item index :: path) ↔
      ∃ u, v.part? (.item index) = some u ∧ Reports s u path := by
  rw [reports_keywords_iff, ← reports_items_iff]
  constructor
  · rintro ⟨k, hk, found⟩
    rcases hlocal k hk with rfl | local_k
    · exact found
    · exact absurd found (not_reports_of_isLocal local_k _ _ _)
  · exact fun found => ⟨_, hks, found⟩

/-! ## Values that satisfy a schema -/

/-- A schema finds nothing about a value or its parts. -/
def Accepts (s : Schema) (v : Value) : Prop := s.findings v = []

/-- A keyword finds nothing about a value or its parts. -/
def KeywordAccepts (k : Keyword) (v : Value) : Prop := findingsOf k v = []

variable {v : Value}

theorem accepts_keywords_iff {ks : List Keyword} :
    Accepts (.keywords ks) v ↔ ∀ k ∈ ks, KeywordAccepts k v := by
  simp only [Accepts, KeywordAccepts, List.eq_nil_iff_forall_not_mem, findings,
    mem_findingsOfAll]
  constructor
  · exact fun none k hk f hf => none f ⟨k, hk, hf⟩
  · exact fun none f ⟨k, hk, hf⟩ => none k hk f hf

theorem accepts_type_iff {kind : Kind} :
    KeywordAccepts (.type kind) v ↔ kind.holds v = true := by
  simp [KeywordAccepts, here]

theorem accepts_members_iff {schemas : List (String × Schema)} :
    KeywordAccepts (.members schemas) v ↔
      ∀ name s, (name, s) ∈ schemas → ∀ u, v.part? (.member name) = some u → Accepts s u := by
  simp only [KeywordAccepts, Accepts, List.eq_nil_iff_forall_not_mem, mem_findingsOf_members]
  constructor
  · exact fun none name s hs u part g hg => none _ ⟨name, s, u, hs, part, g, hg, rfl⟩
  · exact fun none _ ⟨name, s, u, hs, part, g, hg, _⟩ => none name s hs u part g hg

theorem accepts_items_iff {s : Schema} :
    KeywordAccepts (.items s) v ↔
      ∀ index u, v.part? (.item index) = some u → Accepts s u := by
  simp only [KeywordAccepts, Accepts, List.eq_nil_iff_forall_not_mem, mem_findingsOf_items]
  constructor
  · exact fun none index u part g hg => none _ ⟨index, u, part, g, hg, rfl⟩
  · exact fun none _ ⟨index, u, part, g, hg, _⟩ => none index u part g hg

theorem accepts_others_iff {s : Schema} {entries : List (Value × Value)}
    (hv : v.opened = .map entries) :
    KeywordAccepts (.others s) v ↔ ∀ e ∈ entries, Accepts s e.2 := by
  simp [KeywordAccepts, Accepts, hv]

/-- A mapping has the members that are required. -/
theorem accepts_required_iff {names : List String} {entries : List (Value × Value)}
    (hv : v.opened = .map entries) :
    KeywordAccepts (.required names) v ↔
      ∀ name ∈ names, ∃ u, v.part? (.member name) = some u := by
  have held (name : String) :
      (∃ u, v.part? (.member name) = some u) ↔ Table.contains entries (.str name) = true := by
    rw [← Option.isSome_iff_exists, Value.part?, hv]
    rfl
  simp only [KeywordAccepts, findingsOf, hv, held, here, List.flatMap_eq_nil_iff,
    List.mem_filter, Bool.not_eq_true']
  constructor
  · intro none name hname
    by_contra missing
    exact List.cons_ne_nil _ _ (none name ⟨hname, by simpa using missing⟩)
  · rintro all name ⟨hname, missing⟩
    rw [all name hname] at missing
    cases missing

theorem accepts_leastLength_iff {n : Nat} {s : String} :
    KeywordAccepts (.leastLength n) (.str s) ↔ n ≤ s.toList.length := by
  simp [KeywordAccepts, here]

theorem accepts_oneOf_iff {options : List String} :
    KeywordAccepts (.oneOf options) v ↔ ∃ o ∈ options, v.same (.str o) = true := by
  simp [KeywordAccepts, here]

theorem accepts_matching_iff {source : String} {pattern : Pattern} {s : String} :
    KeywordAccepts (.matching source pattern) (.str s) ↔ pattern.search s.toList = true := by
  simp [KeywordAccepts, here]

theorem satisfiesSome_iff {schemas : List Schema} :
    satisfiesSome schemas v = true ↔ ∃ s ∈ schemas, Accepts s v := by
  induction schemas with
  | nil => simp
  | cons s rest ih => simp [ih, Accepts]

theorem accepts_someOf_iff {schemas : List Schema} :
    KeywordAccepts (.someOf schemas) v ↔ ∃ s ∈ schemas, Accepts s v := by
  rw [← satisfiesSome_iff]
  simp [KeywordAccepts, here]

end Schema

end FormRules
