/-
# Equality of values — what looking up relies on

`Value.same` decides whether a value is found where another one is looked for.  Flags and numbers
compare by size, mappings and sets in any order, so it is coarser than equality.  Two facts carry
all reasoning about tables:

    x.same x                                  (`same_self`: every value finds itself)
    x.same y, x a key  ⟹  y a key             (`isKey_of_same`)

With the first one, a table whose keys are distinct gives every entry back under its own key
(`Table.find?_of_mem`), and an entry that was just put is found (`Table.find?_put_self`).
-/
import FormRules.Value.Table

namespace FormRules

theorem Moment.same_self (m : Moment) : m.same m = true := by
  rw [Moment.same]
  cases m.offset with
  | none => exact beq_self_eq_true m
  | some o => exact beq_self_eq_true _

namespace Value

/-! ## Every value finds itself -/

mutual

theorem same_self : ∀ v : Value, v.same v = true
  | .null | .str _ | .bytes _ | .nan _ | .date _ | .again _ => by simp [same]
  | .bool b => by cases b <;> rfl
  | .int n => by simp [same, quantity?, Quantity.compare?]
  | .float x => by simp [same]
  | .moment m => m.same_self
  | .list xs | .tuple xs => sameItems_self xs
  | .ring xs p => by simp [same, sameItems_self xs]
  | .map es => by simp [same, sameEntries_of_subset es es fun _ he => he]
  | .set xs => by simp [same, sameMembers_of_subset xs xs fun _ hx => hx]
  | .file a b c => by simp [same, same_self a, same_self b, same_self c]

theorem sameItems_self : ∀ xs : List Value, sameItems xs xs = true
  | [] => rfl
  | x :: xs => by simp [sameItems, same_self x, sameItems_self xs]

theorem sameEntries_of_subset :
    ∀ es es' : List (Value × Value), es ⊆ es' → sameEntries es es' = true
  | [], _, _ => rfl
  | (k, v) :: rest, es', h => by
      have here : (es'.any fun e => k.same e.1 && v.same e.2) = true :=
        List.any_eq_true.mpr
          ⟨(k, v), h List.mem_cons_self, by simp [same_self k, same_self v]⟩
      rw [sameEntries, here, Bool.true_and]
      exact sameEntries_of_subset rest es' fun _ he => h (List.mem_cons_of_mem _ he)

theorem sameMembers_of_subset :
    ∀ xs ys : List Value, xs ⊆ ys → sameMembers xs ys = true
  | [], _, _ => rfl
  | x :: rest, ys, h => by
      have here : (ys.any fun y => x.same y) = true :=
        List.any_eq_true.mpr ⟨x, h List.mem_cons_self, same_self x⟩
      rw [sameMembers, here, Bool.true_and]
      exact sameMembers_of_subset rest ys fun _ hx => h (List.mem_cons_of_mem _ hx)

end

/-- Only a text is the same as a text. -/
theorem same_str_iff {v : Value} {s : String} : v.same (.str s) = true ↔ v = .str s := by
  constructor
  · intro h
    cases v with
    | str t => rw [same] at h; rw [eq_of_beq h]
    | _ => simp [same, quantity?] at h
  · rintro rfl
    exact same_self _

/-! ## Only keys are found where a key is -/

mutual

theorem isKey_of_same : ∀ x y : Value, x.same y = true → x.isKey = true → y.isKey = true
  | .tuple xs, y, h, hx => by
      cases y with
      | tuple ys => exact areKeys_of_sameItems xs ys h hx
      | _ => simp [same, quantity?] at h
  | .file a b c, y, h, hx => by
      cases y with
      | file a' b' c' =>
          simp only [same, isKey, Bool.and_eq_true] at h hx ⊢
          exact ⟨⟨isKey_of_same a a' h.1.1 hx.1.1, isKey_of_same b b' h.1.2 hx.1.2⟩,
            isKey_of_same c c' h.2 hx.2⟩
      | _ => simp [same, quantity?] at h
  | .list _, _, _, hx | .map _, _, _, hx | .set _, _, _, hx | .ring _ _, _, _, hx
  | .again _, _, _, hx => by simp [isKey] at hx
  | .null, y, h, _ | .bool _, y, h, _ | .int _, y, h, _ | .float _, y, h, _ | .nan _, y, h, _
  | .str _, y, h, _ | .bytes _, y, h, _ | .date _, y, h, _ | .moment _, y, h, _ => by
      cases y <;> first | rfl | simp [same, quantity?] at h

theorem areKeys_of_sameItems :
    ∀ xs ys : List Value, sameItems xs ys = true → areKeys xs = true → areKeys ys = true
  | [], [], _, _ => rfl
  | [], _ :: _, h, _ | _ :: _, [], h, _ => by simp [sameItems] at h
  | x :: xs, y :: ys, h, hx => by
      simp only [sameItems, areKeys, Bool.and_eq_true] at h hx ⊢
      exact ⟨isKey_of_same x y h.1 hx.1, areKeys_of_sameItems xs ys h.2 hx.2⟩

end

/-! ## Values that are written alike

For texts, lists and mappings equality is decided by going through both values.  So a document that
is read can be compared with an expected one by evaluation. -/

mutual

/-- Two values made of texts, lists and mappings have the same parts in the same order. -/
def alike : Value → Value → Bool
  | .str s, .str t => s == t
  | .list xs, .list ys => alikeItems xs ys
  | .map es, .map fs => alikeEntries es fs
  | _, _ => false
termination_by structural x => x

def alikeItems : List Value → List Value → Bool
  | [], [] => true
  | x :: xs, y :: ys => alike x y && alikeItems xs ys
  | _, _ => false
termination_by structural xs => xs

def alikeEntries : List (Value × Value) → List (Value × Value) → Bool
  | [], [] => true
  | (k, v) :: es, (k', v') :: fs => alike k k' && alike v v' && alikeEntries es fs
  | _, _ => false
termination_by structural es => es

end

mutual

theorem eq_of_alike : ∀ x y : Value, x.alike y = true → x = y
  | .str s, y, h => by
      cases y with
      | str t => rw [eq_of_beq h]
      | _ => cases h
  | .list xs, y, h => by
      cases y with
      | list ys => rw [eq_of_alikeItems xs ys h]
      | _ => cases h
  | .map es, y, h => by
      cases y with
      | map fs => rw [eq_of_alikeEntries es fs h]
      | _ => cases h
  | .null, _, h | .bool _, _, h | .int _, _, h | .float _, _, h | .nan _, _, h | .bytes _, _, h
  | .tuple _, _, h | .set _, _, h | .file _ _ _, _, h | .date _, _, h | .moment _, _, h
  | .ring _ _, _, h | .again _, _, h => by simp [alike] at h

theorem eq_of_alikeItems : ∀ xs ys : List Value, alikeItems xs ys = true → xs = ys
  | [], [], _ => rfl
  | [], _ :: _, h | _ :: _, [], h => by cases h
  | x :: xs, y :: ys, h => by
      obtain ⟨first, rest⟩ := Bool.and_eq_true_iff.mp h
      rw [eq_of_alike x y first, eq_of_alikeItems xs ys rest]

theorem eq_of_alikeEntries :
    ∀ es fs : List (Value × Value), alikeEntries es fs = true → es = fs
  | [], [], _ => rfl
  | [], _ :: _, h | _ :: _, [], h => by cases h
  | (k, v) :: es, (k', v') :: fs, h => by
      obtain ⟨first, rest⟩ := Bool.and_eq_true_iff.mp h
      obtain ⟨key, value⟩ := Bool.and_eq_true_iff.mp first
      rw [eq_of_alike k k' key, eq_of_alike v v' value, eq_of_alikeEntries es fs rest]

end

end Value

/-! ## Looking up in a table -/

namespace Table

variable {α : Type}

theorem find?_put_self (t : Table α) (key : Value) (value : α) :
    (t.put key value).find? key = some value := by
  induction t with
  | nil => simp [put, find?, Value.same_self]
  | cons e rest ih =>
      obtain ⟨k, v⟩ := e
      by_cases h : k.same key = true
      · simp [put, find?, h]
      · simp [put, find?, h, ih]

/-- Putting an entry leaves the keys where they are. -/
theorem keys_prefix_put (t : Table α) (key : Value) (value : α) :
    t.keys <+: (t.put key value).keys := by
  rw [keys_put]
  split
  · exact List.prefix_refl _
  · exact List.prefix_append _ _

/-- In a table without repeated keys every entry is found under its key. -/
theorem find?_of_mem {t : Table α} (ht : t.Distinct) {e : Value × α} (he : e ∈ t) :
    t.find? e.1 = some e.2 := by
  induction t with
  | nil => exact absurd he List.not_mem_nil
  | cons e' rest ih =>
      obtain ⟨k, v⟩ := e'
      obtain ⟨hk, hrest⟩ := List.pairwise_cons.mp ht
      rcases List.mem_cons.mp he with rfl | he
      · simp [find?, Value.same_self]
      · have apart : k.same e.1 = false := hk e.1 (List.mem_map_of_mem he)
        simpa [find?, apart] using ih hrest he

/-- A key is in a table exactly if something is found under it. -/
theorem contains_iff {t : Table α} {key : Value} :
    t.contains key = true ↔ ∃ k ∈ t.keys, k.same key = true := by
  rw [← Bool.not_eq_false, contains, Option.isSome_eq_false_iff, Option.isNone_iff_eq_none,
    find?_eq_none_iff]
  simp

/-- What is found is in the table, under a key that is the same. -/
theorem mem_of_find? {t : Table α} {key : Value} {value : α}
    (h : t.find? key = some value) : ∃ k, (k, value) ∈ t ∧ k.same key = true := by
  induction t with
  | nil => cases h
  | cons e rest ih =>
      obtain ⟨k, v⟩ := e
      rw [Table.find?] at h
      split at h
      · rename_i same
        obtain rfl := Option.some.inj h
        exact ⟨k, List.mem_cons_self, same⟩
      · obtain ⟨k', hk', same⟩ := ih h
        exact ⟨k', List.mem_cons_of_mem _ hk', same⟩

end Table

end FormRules
