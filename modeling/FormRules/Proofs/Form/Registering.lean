/-
# Registering — the table that comes of registering fields

Fields that are registered one after the other under texts are found again by name: the names stand
in the order in which each came first, and under each name stand its registrations in the order in
which they came.

    keys      the names, each once, by first occurrence           (`keys_registered`)
    buckets   each name with the entries that came under it       (`eq_of_mem_registered`)
-/
import FormRules.Proofs.Form.Registrations
import FormRules.Proofs.Value.Keys
import Mathlib.Data.List.Induction

namespace FormRules

theorem Value.same_str (s t : String) : (Value.str s).same (.str t) = (s == t) := by
  simp [same]

namespace FieldTable

theorem buckets_add {name : Value} (h : name.isKey = true) (t : FieldTable) (e : Entry) :
    (t.add name e).buckets =
      t.buckets.put name ((t.buckets.find? name).getD [] ++ [e]) := by
  rw [add, put, dif_pos ⟨h, by simp⟩]

/-- The table of fields that are registered one after the other. -/
def registered (es : List (String × Entry)) : FieldTable :=
  es.foldl (fun t e => t.add (.str e.1) e.2) .empty

/-- The registrations under a name, in order. -/
def under (es : List (String × Entry)) (name : String) : List Entry :=
  (es.filter (·.1 == name)).map (·.2)

theorem registered_concat (es : List (String × Entry)) (e : String × Entry) :
    registered (es ++ [e]) = (registered es).add (.str e.1) e.2 := by
  simp [registered]

/-- A name is registered exactly if it came. -/
theorem contains_registered_iff {es : List (String × Entry)}
    (hkeys : (registered es).keys = (es.map (·.1)).eraseDups.map .str) {name : String} :
    (registered es).buckets.contains (.str name) = true ↔ name ∈ es.map (·.1) := by
  rw [Table.contains_iff]
  show (∃ k ∈ (registered es).keys, _) ↔ _
  rw [hkeys]
  constructor
  · rintro ⟨_, hk, same⟩
    obtain ⟨n, hn, rfl⟩ := List.mem_map.mp hk
    rw [Value.same_str, beq_iff_eq] at same
    exact same ▸ List.mem_eraseDups.mp hn
  · intro hname
    exact ⟨.str name, List.mem_map_of_mem (List.mem_eraseDups.mpr hname), Value.same_self _⟩

/-- The registered names, in the order in which they came first. -/
theorem keys_registered (es : List (String × Entry)) :
    (registered es).keys = (es.map (·.1)).eraseDups.map .str := by
  induction es using List.reverseRecOn with
  | nil => rfl
  | append_singleton es e ih =>
      rw [registered_concat, keys, buckets_add rfl, Table.keys_put]
      by_cases came : e.1 ∈ es.map (·.1)
      · have nothing : [e.1].removeAll (es.map (·.1)) = [] := by
          simpa [List.removeAll] using came
        rw [if_pos ((contains_registered_iff ih).mpr came), List.map_append,
          List.eraseDups_append]
        show (registered es).keys = _
        rw [ih]
        simp [nothing]
      · have fresh : [e.1].removeAll (es.map (·.1)) = [e.1] := by
          simpa [List.removeAll] using came
        rw [if_neg fun h => came ((contains_registered_iff ih).mp h), List.map_append,
          List.eraseDups_append]
        show (registered es).keys ++ [_] = _
        rw [ih]
        simp [fresh, List.eraseDups_cons]

/-- What is found under a name are the registrations that came under it. -/
theorem find?_registered (es : List (String × Entry)) (name : String) :
    ((registered es).buckets.find? (.str name)).getD [] = under es name := by
  induction es using List.reverseRecOn with
  | nil => rfl
  | append_singleton es e ih =>
      have later : under (es ++ [e]) name =
          under es name ++ if e.1 = name then [e.2] else [] := by
        by_cases h : e.1 = name <;> simp [under, h]
      rw [registered_concat, buckets_add rfl, later]
      by_cases h : e.1 = name
      · rw [h, Table.find?_put_self, if_pos rfl, ih]
        rfl
      · have apart : (Value.str e.1).same (.str name) = false := by
          simpa [Value.same_str] using h
        rw [Table.find?_put_of_not_same rfl apart, ih, if_neg h, List.append_nil]

/-- **Each registered name stands with the registrations that came under it.** -/
theorem eq_of_mem_registered {es : List (String × Entry)} {b : Value × List Entry}
    (hb : b ∈ (registered es).buckets) :
    ∃ name ∈ es.map (·.1), b = (.str name, under es name) := by
  have key : b.1 ∈ (registered es).keys := List.mem_map_of_mem hb
  rw [keys_registered] at key
  obtain ⟨name, hname, same⟩ := List.mem_map.mp key
  refine ⟨name, List.mem_eraseDups.mp hname, Prod.ext same.symm ?_⟩
  have found := Table.find?_of_mem (registered es).distinct hb
  rw [← same] at found
  rw [← find?_registered, found]
  rfl

end FieldTable

end FormRules
