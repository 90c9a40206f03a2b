/-
# Repetition — the names that a document is warned about

The entries of a document are walked through once, with the names that have been seen and those that
have been reported.  A name is reported when it comes for the second time, and never again:

    the name has come before    it is
    never                       seen
    once                        reported, behind the others
    several times               left alone

So what is reported are the names that come at least twice (`mem_secondComings_iff`), each of them
once (`nodup_secondComings`), in the order in which they come for the second time; `secondComings`
says this of the list of all names, without a walk.  `issues_of_accepts` is the result: such
warnings are all that is said about a document that the schema accepts.
-/
import FormRules.Proofs.Definition.Valid
import Mathlib.Data.List.Induction

namespace FormRules

/-! ## Names that come again -/

/-- The names that come again, in the order in which they come for the second time. -/
def secondComings (names : List String) : List String :=
  (names.zipIdx.filter fun e => (names.take e.2).count e.1 = 1).map (·.1)

theorem secondComings_concat (before : List String) (name : String) :
    secondComings (before ++ [name]) =
      secondComings before ++ if before.count name = 1 then [name] else [] := by
  have old : (before.zipIdx.filter fun e => ((before ++ [name]).take e.2).count e.1 = 1) =
      before.zipIdx.filter fun e => (before.take e.2).count e.1 = 1 := by
    refine List.filter_congr fun e he => ?_
    have inside : e.2 < before.length := by simpa using List.snd_lt_of_mem_zipIdx he
    rw [List.take_append_of_le_length (Nat.le_of_lt inside)]
  have last : [(name, before.length)].filter
      (fun e => ((before ++ [name]).take e.2).count e.1 = 1) =
        if before.count name = 1 then [(name, before.length)] else [] := by
    rw [List.filter_singleton]
    simp
  rw [secondComings, List.zipIdx_append, List.filter_append, old, List.zipIdx_singleton,
    Nat.zero_add, last, List.map_append, secondComings]
  split <;> rfl

/-- These are the names that come at least twice. -/
theorem mem_secondComings_iff {names : List String} {name : String} :
    name ∈ secondComings names ↔ 2 ≤ names.count name := by
  induction names using List.reverseRecOn with
  | nil => simp [secondComings]
  | append_singleton before last ih =>
      rw [secondComings_concat, List.mem_append, ih, List.count_append, List.count_singleton]
      by_cases same : last = name
      · subst same
        by_cases once : before.count last = 1
        · simp [once]
        · simp only [once, if_false, List.not_mem_nil, or_false, beq_self_eq_true, if_true]
          omega
      · have other : name ∉ if before.count last = 1 then [last] else [] := by
          split <;> simp [Ne.symm same]
        simp [other, same]

theorem nodup_secondComings (names : List String) : (secondComings names).Nodup := by
  induction names using List.reverseRecOn with
  | nil => exact List.nodup_nil
  | append_singleton before last ih =>
      rw [secondComings_concat]
      split
      · rename_i once
        have fresh : last ∉ secondComings before := by
          rw [mem_secondComings_iff]
          omega
        refine List.nodup_append.mpr ⟨ih, List.pairwise_singleton _ _, fun a ha b hb same => ?_⟩
        obtain rfl := List.mem_singleton.mp hb
        exact fresh (same ▸ ha)
      · simpa using ih

/-! ## The walk through the entries -/

theorem Value.any_same_map_str_iff {names : List String} {name : String} :
    ((names.map Value.str).any fun v => v.same (.str name)) = true ↔ name ∈ names := by
  simp [same_str_iff]

/-- A name comes for the second time exactly if it has come and has not been reported. -/
theorem again_iff {before : List String} {name : String} :
    name ∈ before ∧ name ∉ secondComings before ↔ before.count name = 1 := by
  rw [← List.count_pos_iff, mem_secondComings_iff]
  omega

namespace Issue

/-- The names that a walk reports, from the names that it has come by. -/
theorem repeatedFrom_eq {names : List String} {entries : List Value}
    (named : List.Forall₂ (fun entry name => ∃ members, entry.opened = .map members ∧
      (Table.find? members (.str "name")).getD .null = .str name) entries names)
    (before : List String) :
    repeatedFrom (before.reverse.map .str) ((secondComings before).map .str) entries =
      .ok ((secondComings (before ++ names)).map .str) := by
  induction named generalizing before with
  | nil => rw [List.append_nil]; rfl
  | @cons entry name entries names here _ ih =>
      obtain ⟨members, opened, found⟩ := here
      have onward := ih (before ++ [name])
      rw [List.append_assoc, List.singleton_append, List.reverse_concat, List.map_cons,
        secondComings_concat] at onward
      have again : ((((before.reverse.map Value.str).any fun v => v.same (.str name)) &&
          !((secondComings before).map Value.str).any fun v => v.same (.str name)) = true) ↔
            before.count name = 1 := by
        rw [Bool.and_eq_true, Bool.not_eq_true', Bool.eq_false_iff, Ne, Value.any_same_map_str_iff,
          Value.any_same_map_str_iff, List.mem_reverse, again_iff]
      have reported : (if before.count name = 1 then
            (secondComings before).map Value.str ++ [.str name]
          else (secondComings before).map Value.str) =
            (secondComings before ++ if before.count name = 1 then [name] else []).map .str := by
        split <;> simp
      rw [← onward, ← reported, repeatedFrom, opened]
      simp only [found, again]
      rfl

end Issue

/-! ## Documents -/

namespace FormDefinition

variable {document : Value}

/-- The texts that the fields of a document are named by, in order. -/
def namesIn (document : Value) : List String := (fieldsIn document).map fun f => f.name.text

section Documents

variable (h : schema.Accepts document)

include h

theorem map_name_fieldsIn : (fieldsIn document).map (·.name) = (namesIn document).map .str := by
  rw [namesIn, List.map_map]
  refine List.map_congr_left fun f hf => ?_
  obtain ⟨name, named, -⟩ := (isValid_of_mem_fieldsIn h hf).name
  show f.name = .str f.name.text
  rw [named]
  rfl

/-- The walk through the entries of a document comes by the names of its fields. -/
theorem repeatedNames_of_accepts {members : List (Value × Value)}
    (opened : document.opened = .map members) :
    Issue.repeatedNames members = .ok ((secondComings (namesIn document)).map .str) := by
  obtain ⟨entries, listed, accepted⟩ := exists_entries h
  have fields : fieldsIn document = entries.map fieldIn := by rw [fieldsIn, listed]
  have here : (Table.find? members (.str "fields")).getD .null = document.member "fields" :=
    (Value.member_of_opened opened "fields").symm
  have named : List.Forall₂ (fun entry name => ∃ members, entry.opened = .map members ∧
      (Table.find? members (.str "name")).getD .null = .str name) entries (namesIn document) := by
    rw [namesIn, fields, List.map_map, List.forall₂_map_right_iff, List.forall₂_same]
    intro entry hentry
    obtain ⟨members, opened⟩ := opened_of_accepts_field (accepted entry hentry)
    obtain ⟨name, named, -⟩ := (isValid_fieldIn (accepted entry hentry)).name
    refine ⟨members, opened, (Value.member_of_opened opened "name").symm.trans ?_⟩
    show (fieldIn entry).name = .str (fieldIn entry).name.text
    rw [named]
    rfl
  have walked : Issue.repeatedFrom [] [] entries =
      .ok ((secondComings (namesIn document)).map .str) := Issue.repeatedFrom_eq named []
  rw [Issue.repeatedNames, here]
  cases full : (document.member "fields").truthy with
  | true =>
      have items : (document.member "fields").members = .ok entries := by
        rw [Value.members, Value.members?, listed]
      rw [items]
      exact walked
  | false =>
      -- A list that does not count is empty, and nothing comes again in it.
      have none := entriesOf_of_opened "" listed
      rw [entriesOf, full] at none
      obtain rfl : [] = entries := Except.ok.inj none
      exact walked

/-- **What is said about a document that the schema accepts.**  If it can be written, then it is one
warning for each name that comes again, in the order in which the names come for the second time. -/
theorem issues_of_accepts :
    Issue.ofDocument document = (Issue.writable document).map fun _ =>
      (secondComings (namesIn document)).map fun name => Issue.sharedName (.str name) := by
  obtain ⟨members, opened⟩ := opened_of_accepts h
  simp only [Issue.ofDocument, opened, ofSchema_of_accepts h, repeatedNames_of_accepts h opened, ok_bind,
    List.map_map, List.nil_append]
  cases Issue.writable document <;> rfl

end Documents

end FormDefinition

end FormRules
