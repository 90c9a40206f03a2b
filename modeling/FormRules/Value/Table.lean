import FormRules.Value.Basic
/-!
# Tables

A table holds one entry per key, in the order in which the keys first came.  A new value for a key
takes the place of the old one, and the key that was there first is kept.
-/
namespace FormRules

/-- Entries under keys that are values. -/
abbrev Table (α : Type) := List (Value × α)

namespace Table

variable {α : Type}

/-- The entry under a key. -/
def find? : Table α → Value → Option α
  | [], _ => none
  | (k, v) :: rest, key => if k.same key then some v else find? rest key

/-- Whether there is an entry under a key. -/
def contains (t : Table α) (key : Value) : Bool := (t.find? key).isSome

/-- Put an entry under a key. -/
def put : Table α → Value → α → Table α
  | [], key, value => [(key, value)]
  | (k, v) :: rest, key, value =>
      if k.same key then (k, value) :: rest else (k, v) :: put rest key value

/-- Remove the entry under a key. -/
def erase : Table α → Value → Table α
  | [], _ => []
  | (k, v) :: rest, key => if k.same key then rest else (k, v) :: erase rest key

/-- The keys in order. -/
def keys (t : Table α) : List Value := t.map (·.1)

/-- A table of entries given one after the other. -/
def ofList (entries : List (Value × α)) : Table α :=
  entries.foldl (fun t e => t.put e.1 e.2) []

/-- No key comes twice. -/
def Distinct (t : Table α) : Prop := t.keys.Pairwise fun a b => a.same b = false

@[simp] theorem find?_nil (key : Value) : find? ([] : Table α) key = none := rfl

@[simp] theorem keys_nil : keys ([] : Table α) = [] := rfl

@[simp] theorem keys_cons (k : Value) (v : α) (t : Table α) : keys ((k, v) :: t) = k :: keys t :=
  rfl

/-- A new value keeps the keys and their order; a new key comes last. -/
theorem keys_put (t : Table α) (key : Value) (value : α) :
    (t.put key value).keys = if t.contains key then t.keys else t.keys ++ [key] := by
  induction t with
  | nil => simp [put, contains, keys]
  | cons e rest ih =>
      obtain ⟨k, v⟩ := e
      by_cases h : k.same key
      · simp [put, contains, find?, h]
      · simp only [put, h, contains, find?, keys_cons, ih, Bool.false_eq_true, if_false]
        split <;> simp_all [contains]

@[simp] theorem distinct_nil : Distinct ([] : Table α) := List.Pairwise.nil

/-- Nothing is found exactly when no key is the one looked for. -/
theorem find?_eq_none_iff {t : Table α} {key : Value} :
    t.find? key = none ↔ ∀ k ∈ t.keys, k.same key = false := by
  induction t with
  | nil => simp [find?]
  | cons e rest ih =>
      obtain ⟨k, v⟩ := e
      by_cases h : k.same key = true
      · simp [find?, h]
      · simp [find?, h, ih]

theorem distinct_put {t : Table α} (h : t.Distinct) (key : Value) (value : α) :
    (t.put key value).Distinct := by
  rw [Distinct, keys_put]
  split
  · exact h
  · rename_i absent
    refine List.pairwise_append.mpr ⟨h, List.pairwise_singleton .., ?_⟩
    intro k hk k' hk'
    obtain rfl := List.mem_singleton.mp hk'
    refine find?_eq_none_iff.mp ?_ k hk
    simpa [contains] using absent

/-- Removing an entry keeps the order of the others. -/
theorem sublist_erase (t : Table α) (key : Value) : (t.erase key).Sublist t := by
  induction t with
  | nil => exact .slnil
  | cons e rest ih =>
      obtain ⟨k, v⟩ := e
      rw [erase]
      split
      · exact List.sublist_cons_self ..
      · exact ih.cons_cons _

theorem distinct_erase {t : Table α} (h : t.Distinct) (key : Value) : (t.erase key).Distinct :=
  List.Pairwise.sublist ((sublist_erase t key).map _) h

/-- A new value is the only entry that was not there before. -/
theorem mem_put {t : Table α} {key : Value} {value : α} {e : Value × α}
    (h : e ∈ t.put key value) : e ∈ t ∨ e.2 = value ∧ (e.1 = key ∨ e.1 ∈ t.keys) := by
  induction t with
  | nil =>
      obtain rfl := List.mem_singleton.mp h
      exact .inr ⟨rfl, .inl rfl⟩
  | cons e' rest ih =>
      obtain ⟨k, v⟩ := e'
      rw [put] at h
      split at h
      · rcases List.mem_cons.mp h with rfl | h
        · exact .inr ⟨rfl, .inr List.mem_cons_self⟩
        · exact .inl (List.mem_cons_of_mem _ h)
      · rcases List.mem_cons.mp h with rfl | h
        · exact .inl List.mem_cons_self
        · rcases ih h with h | ⟨hv, hk⟩
          · exact .inl (List.mem_cons_of_mem _ h)
          · exact .inr ⟨hv, hk.imp_right (List.mem_cons_of_mem _)⟩

end Table

end FormRules
