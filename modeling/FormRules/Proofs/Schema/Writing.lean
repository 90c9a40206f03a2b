/-
# Writing — values whose findings have a text

The wording of a finding shows the value that it is about, and an integer of too many digits has no
text.  Such an integer may be anywhere in a value, also in a key or in another node of a ring.  A
value that holds none has parts that hold none (`Value.IsShort`), and whatever a schema says about
it can be written (`isWritable_of_isShort`).  The converse fails: a long integer is no obstacle
where the schema has nothing to say.
-/
import FormRules.Proofs.Schema.Findings
import FormRules.Proofs.Value.Equality

namespace FormRules

namespace Value

/-- A value without integers of too many digits. -/
def IsShort (v : Value) : Prop := v.holdsLongInteger = false

theorem someLongInteger_eq_false_iff {vs : List Value} :
    someLongInteger vs = false ↔ ∀ v ∈ vs, v.IsShort := by
  induction vs with
  | nil => simp [someLongInteger]
  | cons v rest ih => simp [someLongInteger, ih, IsShort]

theorem someLongEntry_eq_false_iff {es : List (Value × Value)} :
    someLongEntry es = false ↔ ∀ e ∈ es, e.1.IsShort ∧ e.2.IsShort := by
  induction es with
  | nil => simp [someLongEntry]
  | cons e rest ih =>
      obtain ⟨k, v⟩ := e
      simp [someLongEntry, ih, IsShort, and_assoc]

mutual

/-- A part of a node of a ring holds no more than the part and the ring do. -/
theorem isShort_released {nodes : List Value} (short : ∀ node ∈ nodes, node.IsShort) :
    ∀ v : Value, v.IsShort → (released nodes v).IsShort
  | .again place => by
      intro _
      rw [released]
      exact someLongInteger_eq_false_iff.mpr short
  | .tuple items => by
      intro h
      rw [released]
      exact someLongInteger_eq_false_iff.mpr
        (isShort_releasedItems short items (someLongInteger_eq_false_iff.mp h))
  | .null | .bool _ | .int _ | .float _ | .nan _ | .str _ | .bytes _ | .list _ | .map _ | .set _
  | .file .. | .date _ | .moment _ | .ring .. => by
      simp only [released]
      exact id

theorem isShort_releasedItems {nodes : List Value} (short : ∀ node ∈ nodes, node.IsShort) :
    ∀ items : List Value, (∀ v ∈ items, v.IsShort) → ∀ v ∈ releasedItems nodes items, v.IsShort
  | [] => by simp [releasedItems]
  | v :: rest => by
      intro h
      obtain ⟨first, others⟩ := List.forall_mem_cons.mp h
      rw [releasedItems]
      exact List.forall_mem_cons.mpr
        ⟨isShort_released short v first, isShort_releasedItems short rest others⟩

end

/-- What a node of a ring is holds no more than the ring does. -/
theorem IsShort.opened {v : Value} (h : v.IsShort) : v.opened.IsShort := by
  unfold Value.opened
  split
  · rename_i nodes place
    have short : ∀ node ∈ nodes, node.IsShort := someLongInteger_eq_false_iff.mp h
    have here : ((nodes[place]?).getD .null).IsShort := by
      cases found : nodes[place]? with
      | none => rfl
      | some node => exact short node (List.mem_of_getElem? found)
    split
    · rename_i items opened
      rw [opened] at here
      refine someLongInteger_eq_false_iff.mpr (List.forall_mem_map.mpr fun v hv => ?_)
      exact isShort_released short v (someLongInteger_eq_false_iff.mp here v hv)
    · rename_i entries opened
      rw [opened] at here
      refine someLongEntry_eq_false_iff.mpr (List.forall_mem_map.mpr fun e he => ?_)
      obtain ⟨key, value⟩ := someLongEntry_eq_false_iff.mp here e he
      exact ⟨key, isShort_released short e.2 value⟩
    · exact h
  · exact h

theorem IsShort.of_mem_map {v : Value} (h : v.IsShort) {entries : List (Value × Value)}
    (opened : v.opened = .map entries) : ∀ e ∈ entries, e.1.IsShort ∧ e.2.IsShort := by
  have short := h.opened
  rw [opened] at short
  exact someLongEntry_eq_false_iff.mp short

theorem IsShort.of_mem_list {v : Value} (h : v.IsShort) {items : List Value}
    (opened : v.opened = .list items) : ∀ item ∈ items, item.IsShort := by
  have short := h.opened
  rw [opened] at short
  exact someLongInteger_eq_false_iff.mp short

end Value

namespace Schema

/-- What a keyword finds about a value itself shows the value or some of its keys. -/
theorem isWritable_of_mem_findingsOf {k : Keyword} (hk : IsLocal k) {v : Value} (h : v.IsShort)
    {f : Finding} (hf : f ∈ findingsOf k v) : f.violation.isWritable = true := by
  have shows : (!v.holdsLongInteger) = true := by rw [show v.holdsLongInteger = false from h]; rfl
  cases k with
  | members _ | others _ | items _ => exact hk.elim
  | type _ | oneOf _ | someOf _ =>
      rw [findingsOf] at hf
      split at hf
      · cases hf
      · obtain rfl := List.mem_singleton.mp hf
        exact shows
  | required names =>
      rw [findingsOf] at hf
      split at hf
      · obtain ⟨name, -, hf⟩ := List.mem_flatMap.mp hf
        obtain rfl := List.mem_singleton.mp hf
        rfl
      · cases hf
  | closed names =>
      rw [findingsOf] at hf
      split at hf
      · rename_i entries opened
        split at hf
        · cases hf
        · obtain rfl := List.mem_singleton.mp hf
          have short : ∀ key ∈ unknownMembers names entries, key.holdsLongInteger = false := by
            intro key hkey
            obtain ⟨e, he, rfl⟩ := List.mem_map.mp (List.mem_of_mem_filter hkey)
            exact (h.of_mem_map opened e he).1
          simpa [Violation.isWritable] using short
      · cases hf
  | leastLength n =>
      cases v with
      | str s =>
          rw [findingsOf] at hf
          split at hf
          · obtain rfl := List.mem_singleton.mp hf
            split <;> rfl
          · cases hf
      | _ => simp [findingsOf] at hf
  | matching source pattern =>
      cases v with
      | str s =>
          rw [findingsOf] at hf
          split at hf
          · cases hf
          · obtain rfl := List.mem_singleton.mp hf
            rfl
      | _ => simp [findingsOf] at hf

theorem areWritable_findingsOf {k : Keyword} (hk : IsLocal k) {v : Value} (h : v.IsShort) :
    areWritable (findingsOf k v) = true :=
  List.all_eq_true.mpr fun _ => isWritable_of_mem_findingsOf hk h

mutual

/-- **Whatever a schema says about a value without long integers can be written.** -/
theorem isWritable_of_isShort : ∀ (s : Schema) {v : Value}, v.IsShort → s.isWritable v = true
  | .keywords ks, _, h => allWritable_of_isShort ks h

theorem allWritable_of_isShort : ∀ (ks : List Keyword) {v : Value}, v.IsShort →
    allWritable ks v = true
  | [], _, _ => rfl
  | k :: ks, _, h => by
      rw [allWritable, keywordWritable_of_isShort k h, allWritable_of_isShort ks h]
      rfl

theorem keywordWritable_of_isShort : ∀ (k : Keyword) {v : Value}, v.IsShort →
    keywordWritable k v = true
  | .members schemas, v, h => by
      rw [keywordWritable]
      split
      · rename_i entries opened
        exact membersWritable_of_isShort schemas fun e he => (h.of_mem_map opened e he).2
      · rfl
  | .others s, v, h => by
      rw [keywordWritable]
      split
      · rename_i entries opened
        refine List.all_eq_true.mpr fun e he => ?_
        obtain ⟨key, value⟩ := h.of_mem_map opened e he
        rw [isWritable_of_isShort s value, show e.1.holdsLongInteger = false from key]
        rfl
      · rfl
  | .items s, v, h => by
      rw [keywordWritable]
      split
      · rename_i items opened
        exact List.all_eq_true.mpr fun item hitem =>
          isWritable_of_isShort s (h.of_mem_list opened item hitem)
      · rfl
  | .someOf schemas, v, h => by
      rw [keywordWritable, someWritable_of_isShort schemas h,
        show v.holdsLongInteger = false from h, Bool.not_false, Bool.or_true]
      rfl
  | .type kind, _, h => areWritable_findingsOf (k := .type kind) trivial h
  | .required names, _, h => areWritable_findingsOf (k := .required names) trivial h
  | .closed names, _, h => areWritable_findingsOf (k := .closed names) trivial h
  | .leastLength n, _, h => areWritable_findingsOf (k := .leastLength n) trivial h
  | .matching source pattern, _, h => areWritable_findingsOf (k := .matching source pattern) trivial h
  | .oneOf options, _, h => areWritable_findingsOf (k := .oneOf options) trivial h

theorem membersWritable_of_isShort : ∀ (schemas : List (String × Schema))
    {entries : List (Value × Value)}, (∀ e ∈ entries, e.2.IsShort) →
      membersWritable schemas entries = true
  | [], _, _ => rfl
  | (name, s) :: rest, entries, h => by
      rw [membersWritable, membersWritable_of_isShort rest h, Bool.and_true]
      split
      · rename_i u found
        obtain ⟨key, mem, -⟩ := Table.mem_of_find? found
        exact isWritable_of_isShort s (h _ mem)
      · rfl

theorem someWritable_of_isShort : ∀ (schemas : List Schema) {v : Value}, v.IsShort →
    someWritable schemas v = true
  | [], _, _ => rfl
  | s :: rest, _, h => by
      rw [someWritable, isWritable_of_isShort s h, someWritable_of_isShort rest h, Bool.or_true]
      rfl

end

end Schema

end FormRules
