/-
# Registry — what is registered after any calls

Registering and unregistering fields keeps a ledger: a list of the live registrations, each with the
name, the field and the compiled rules it came with.

    register f, and it returns    one more registration of `f`, behind the others
    register f, and it raises     nothing
    unregister f                  all registrations of that very field are gone, and no others

A field table *shows* a ledger if under every key stand the registrations of that key, in order
(`FieldTable.Shows`).  One call keeps that (`Shows.add`, `Shows.remove`), and so does any course of
calls, with anything in between that leaves the table and the names of the fields alone.

The order of the names is said in terms of the ledgers alone.  The presence of a name is the number
of calls for which it has had a live registration without interruption, and the names stand in the
order of decreasing presence (`Course.settled`).  That the order lasts is due to one observation: a
call makes the presence of every name that stays one greater, so only a name that has just come can
be out of place, and it comes last.
-/
import FormRules.Proofs.Form.Registering
import FormRules.Proofs.Outcome
import FormRules.Session.Run

namespace FormRules

open FormM

/-! ## Ledgers -/

/-- Live registrations, each under the name it came with. -/
abbrev Ledger := List (Value × Entry)

namespace Ledger

/-- The live registrations of a name, in order. -/
def under (live : Ledger) (key : Value) : List Entry :=
  (live.filter fun e => e.1.same key).map (·.2)

theorem under_append (live more : Ledger) (key : Value) :
    Ledger.under (live ++ more) key = live.under key ++ more.under key := by
  simp [under]

theorem under_singleton (name : Value) (e : Entry) (key : Value) :
    Ledger.under [(name, e)] key = if name.same key then [e] else [] := by
  by_cases same : name.same key = true <;> simp [under, same]

/-- The registrations without those of one field. -/
def without (live : Ledger) (id : FieldId) : Ledger := live.filter (·.2.field != id)

/-- The registrations without those of one field that came with one name. -/
def leaving (live : Ledger) (id : FieldId) (name : Value) : Ledger :=
  live.filter fun e => !(e.2.field == id && e.1.same name)

theorem under_leaving {live : Ledger} {id : FieldId} {name key : Value} (hkey : key.isKey = true) :
    (live.leaving id name).under key =
      (live.under key).filter fun e => !(e.field == id && key.same name) := by
  simp only [under, leaving, List.filter_map, List.filter_filter]
  refine congrArg (List.map Prod.snd) (List.filter_congr fun e _ => ?_)
  cases same : e.1.same key with
  | false => simp
  | true => simp [Value.same_congr hkey same name]

/-- The names that are live, each once. -/
def names : Ledger → List Value
  | [] => []
  | e :: rest => if (Ledger.under rest e.1).isEmpty then e.1 :: names rest else names rest

theorem exists_of_mem_names {live : Ledger} {key : Value} (h : key ∈ live.names) :
    ∃ e ∈ live, e.1 = key := by
  induction live with
  | nil => cases h
  | cons e rest ih =>
      have later (h : key ∈ Ledger.names rest) : ∃ e' ∈ e :: rest, e'.1 = key := by
        obtain ⟨e', he', same⟩ := ih h
        exact ⟨e', List.mem_cons_of_mem _ he', same⟩
      rw [names] at h
      split at h
      · rcases List.mem_cons.mp h with rfl | h
        · exact ⟨e, List.mem_cons_self, rfl⟩
        · exact later h
      · exact later h

theorem under_ne_nil_iff {live : Ledger} {key : Value} :
    live.under key ≠ [] ↔ ∃ e ∈ live, e.1.same key = true := by
  simp [under]

/-- The latest ledger of a course. -/
def latest (past : List Ledger) : Ledger := past.headD []

/-- For how many calls a name has had a live registration without interruption; the latest ledger
comes first. -/
def presence (past : List Ledger) (key : Value) : Nat :=
  (past.takeWhile fun live => !(live.under key).isEmpty).length

theorem presence_cons_of_live {live : Ledger} {key : Value} (h : live.under key ≠ [])
    (past : List Ledger) : presence (live :: past) key = presence past key + 1 := by
  have here : (!(live.under key).isEmpty) = true := by simpa using h
  simp [presence, here]

theorem presence_pos_iff {past : List Ledger} {key : Value} :
    0 < presence past key ↔ (Ledger.latest past).under key ≠ [] := by
  cases past with
  | nil => simp [presence, latest, under]
  | cons live past =>
      by_cases h : live.under key = []
      · simp [presence, latest, h]
      · simp [presence_cons_of_live h, latest, h]

end Ledger

/-! ## Tables that show a ledger -/

namespace FieldTable

/-- Under every key stand the live registrations of that key. -/
def Shows (t : FieldTable) (live : Ledger) : Prop :=
  ∀ key, key.isKey = true → (t.buckets.find? key).getD [] = live.under key

theorem Shows.empty : FieldTable.empty.Shows [] := fun _ _ => rfl

variable {t : FieldTable} {live : Ledger} {key name : Value}

theorem ne_nil_of_find? {entries : List Entry} (found : t.buckets.find? key = some entries) :
    entries ≠ [] := by
  obtain ⟨k, hk, -⟩ := Table.mem_of_find? found
  exact t.ne_nil _ hk

/-- A bucket is found exactly for the names that are live. -/
theorem Shows.find? (h : t.Shows live) (hkey : key.isKey = true) :
    t.buckets.find? key = if live.under key = [] then none else some (live.under key) := by
  have shown := h key hkey
  cases found : t.buckets.find? key with
  | none =>
      rw [found] at shown
      exact (if_pos shown.symm).symm
  | some entries =>
      have some := ne_nil_of_find? found
      rw [found] at shown
      obtain rfl : entries = live.under key := shown
      rw [if_neg some]

/-- A registration more. -/
theorem Shows.add (h : t.Shows live) (hname : name.isKey = true) (e : Entry) :
    (t.add name e).Shows (live ++ [(name, e)]) := by
  intro key hkey
  rw [buckets_add hname, Ledger.under_append, Ledger.under_singleton]
  by_cases same : name.same key = true
  · rw [if_pos same, ← Table.find?_congr hname same, Table.find?_put_self, Option.getD_some,
      Table.find?_congr hname same, h key hkey]
  · rw [if_neg same, List.append_nil, Table.find?_put_of_not_same hname (by simpa using same),
      h key hkey]

theorem find?_remove_of_not_same (hname : name.isKey = true) (apart : name.same key = false)
    (id : FieldId) : (t.remove name id).buckets.find? key = t.buckets.find? key := by
  unfold remove
  split
  · rfl
  · dsimp only
    split
    · rw [erase, Table.find?_erase hname t.distinct, if_neg (by simp [apart])]
    · rename_i more
      rw [put, dif_pos ⟨hname, by simpa using more⟩, Table.find?_put_of_not_same hname apart]

theorem find?_remove_self (hname : name.isKey = true) (id : FieldId) :
    ((t.remove name id).buckets.find? name).getD [] =
      ((t.buckets.find? name).getD []).filter (·.field != id) := by
  unfold remove
  cases found : t.buckets.find? name with
  | none => rw [found]; rfl
  | some entries =>
      dsimp only
      split
      · rename_i none
        rw [erase, Table.find?_erase hname t.distinct, if_pos (Value.same_self name)]
        exact (List.isEmpty_iff.mp none).symm
      · rename_i more
        rw [put, dif_pos ⟨hname, by simpa using more⟩, Table.find?_put_self]
        rfl

/-- The registrations of a field under one name are removed. -/
theorem Shows.leave (h : t.Shows live) (hname : name.isKey = true) (id : FieldId) :
    (t.remove name id).Shows (live.leaving id name) := by
  intro key hkey
  rw [Ledger.under_leaving hkey, ← h key hkey]
  by_cases same : name.same key = true
  · have same' : key.same name = true := Value.same_comm hkey ▸ same
    simp only [same', Bool.and_true]
    rw [← Table.find?_congr hname same, ← Table.find?_congr hname same]
    exact find?_remove_self hname id
  · have apart : name.same key = false := by simpa using same
    have apart' : key.same name = false := Value.same_comm hkey ▸ apart
    rw [find?_remove_of_not_same hname apart]
    simp only [apart', Bool.and_false, Bool.not_false, List.filter_true]

/-- If a field has only come with its present name, then all its registrations are removed. -/
theorem Shows.remove (h : t.Shows live) (hname : name.isKey = true) {id : FieldId}
    (named : ∀ e ∈ live, e.2.field = id → e.1 = name) :
    (t.remove name id).Shows (live.without id) := by
  have all : live.leaving id name = live.without id := by
    refine List.filter_congr fun e he => ?_
    by_cases own : e.2.field = id
    · simp [own, named e he own, Value.same_self]
    · have other : (e.2.field == id) = false := beq_false_of_ne own
      simp [other, bne]
  exact all ▸ h.leave hname id

/-! ## The order of the names -/

theorem contains_iff_find? (h : t.Shows live) (hkey : key.isKey = true) :
    t.buckets.contains key = true ↔ live.under key ≠ [] := by
  rw [Table.contains, h.find? hkey]
  split <;> simp_all

/-- A new name comes last. -/
theorem keys_add (h : t.Shows live) (hname : name.isKey = true) (e : Entry) :
    (t.add name e).keys = if live.under name = [] then t.keys ++ [name] else t.keys := by
  rw [keys, buckets_add hname, Table.keys_put]
  by_cases fresh : live.under name = []
  · rw [if_pos fresh, if_neg fun found => (contains_iff_find? h hname).mp found fresh]
    rfl
  · rw [if_neg fresh, if_pos ((contains_iff_find? h hname).mpr fresh)]
    rfl

/-- Names that stay keep their order. -/
theorem keys_remove_sublist (t : FieldTable) (hname : name.isKey = true) (id : FieldId) :
    (t.remove name id).keys.Sublist t.keys := by
  unfold remove
  cases found : t.buckets.find? name with
  | none => exact .refl _
  | some entries =>
      dsimp only
      split
      · exact (Table.sublist_erase t.buckets name).map _
      · rename_i more
        have held : t.buckets.contains name = true := by rw [Table.contains, found]; rfl
        rw [put, dif_pos ⟨hname, by simpa using more⟩, keys, Table.keys_put, if_pos held]
        exact .refl _

/-- The names stand in the order of decreasing presence. -/
def InOrder (t : FieldTable) (past : List Ledger) : Prop :=
  t.keys.Pairwise fun a b => Ledger.presence past b < Ledger.presence past a

theorem live_of_mem_keys (h : t.Shows live) (hkey : key ∈ t.keys) : live.under key ≠ [] := by
  have isKey := isKey_of_mem_keys hkey
  exact (contains_iff_find? h isKey).mp (Table.contains_iff.mpr ⟨key, hkey, Value.same_self key⟩)

/-- Names that stay are present for one call more, all of them. -/
theorem InOrder.of_sublist {t' : FieldTable} {live' : Ledger} {past : List Ledger}
    (h : t.InOrder past) (shows : t'.Shows live') (stay : t'.keys.Sublist t.keys) :
    t'.InOrder (live' :: past) := by
  refine (h.sublist stay).imp_of_mem fun {a b} ha hb before => ?_
  rw [Ledger.presence_cons_of_live (live_of_mem_keys shows ha),
    Ledger.presence_cons_of_live (live_of_mem_keys shows hb)]
  exact Nat.succ_lt_succ before

/-- A name that has just come has been present for the fewest calls. -/
theorem InOrder.add {past : List Ledger} (h : t.InOrder past) (shows : t.Shows (Ledger.latest past))
    (hname : name.isKey = true) (e : Entry) :
    (t.add name e).InOrder ((Ledger.latest past ++ [(name, e)]) :: past) := by
  have shows' := shows.add hname e
  have keys := keys_add shows hname e
  by_cases fresh : (Ledger.latest past).under name = []
  · rw [if_pos fresh] at keys
    have absent : Ledger.presence past name = 0 := by
      by_contra some
      exact Ledger.presence_pos_iff.mp (Nat.pos_of_ne_zero some) fresh
    have live (k : Value) (hk : k ∈ t.keys ++ [name]) := live_of_mem_keys shows' (keys ▸ hk)
    rw [InOrder, keys]
    refine List.pairwise_append.mpr ⟨?_, List.pairwise_singleton .., ?_⟩
    · refine h.imp_of_mem fun {a b} ha hb before => ?_
      rw [Ledger.presence_cons_of_live (live a (List.mem_append_left _ ha)),
        Ledger.presence_cons_of_live (live b (List.mem_append_left _ hb))]
      exact Nat.succ_lt_succ before
    · intro a ha b hb
      obtain rfl := List.mem_singleton.mp hb
      have present : 0 < Ledger.presence past a :=
        Ledger.presence_pos_iff.mpr (live_of_mem_keys shows ha)
      rw [Ledger.presence_cons_of_live (live a (List.mem_append_left _ ha)),
        Ledger.presence_cons_of_live (live b (List.mem_append_right _ hb)), absent]
      exact Nat.succ_lt_succ present
  · rw [if_neg fresh] at keys
    exact h.of_sublist shows' (keys ▸ List.Sublist.refl _)

end FieldTable

/-! ## Calls -/

/-- The compiled rules of a field in a world, if it has a rule string. -/
def World.chainOf (w : World) (f : Field) : Outcome (Option Chain) :=
  match f.rules with
  | .str rules => (Chain.compile w.registries f.kind.shelf rules).map some
  | _ => .ok none

/-- A call that changes what is registered. -/
inductive Call where
  | register (id : FieldId)
  | unregister (id : FieldId)

namespace Call

/-- The field that a call is about. -/
def id : Call → FieldId
  | register id | unregister id => id

/-- What a call does to a form. -/
def run : Call → FormM Unit
  | register id => Form.addField id
  | unregister id => Form.unregisterField id

/-- The ledger behind a call in a world, given how the call ended. -/
def ledger (w : World) (live : Ledger) : Call → Outcome Unit → Ledger
  | register id, .ok () =>
      live ++ [((w.field id).name, ⟨id, (w.chainOf (w.field id)).toOption.join⟩)]
  | register _, .error _ => live
  | unregister id, _ => live.without id

end Call

/-- A course of calls on a registry that was empty, with anything in between that leaves the table
alone: the world it has led to, and the ledgers behind the calls, the latest first.  Whenever a call
is about a field, the field has the name that `name` says. -/
inductive Course (name : FieldId → Value) : World → List Ledger → Prop
  | start {w : World} (nothing : w.form.fields = .empty) : Course name w []
  | aside {w w' : World} {past : List Ledger} (before : Course name w past)
      (same : w'.form.fields = w.form.fields) : Course name w' past
  | call {w w' : World} {past : List Ledger} {outcome : Outcome Unit} (before : Course name w past)
      (c : Call) (named : (w.field c.id).name = name c.id) (ran : c.run.runIn w = (outcome, w')) :
      Course name w' (c.ledger w (Ledger.latest past) outcome :: past)

/-- The world in which a field is registered. -/
def World.registering (w : World) (name : Value) (e : Entry) : World :=
  w.changing fun f => { f with fields := f.fields.add name e }

namespace Form

variable {w : World} {id : FieldId} {f : Field} {chain : Option Chain}

theorem runIn_compileRules_eq (f : Field) (w : World) :
    (compileRules f).runIn w = (w.chainOf f, w) := by
  unfold compileRules World.chainOf
  cases f.rules with
  | str rules => simp [runIn_bind, runIn_map]
  | _ => rfl

/-- Registering a field adds it to the table and reports if it shares its name. -/
theorem runIn_addField (hfield : w.field id = f) (hname : f.name.isKey = true)
    (hfull : f.name.truthy = true)
    (hchain : (compileRules f).runIn w = (.ok chain, w)) :
    ∃ w', (w.registering f.name ⟨id, chain⟩).Reports w' ∧
      (addField id).runIn w = (.ok (), w') := by
  have found : w.form.fields.bucket? f.name = .ok (w.form.fields.buckets.find? f.name) := by
    rw [FieldTable.bucket?, if_pos hname]
  have begun : (addField id).runIn w = (if 1 <
      ((w.form.fields.buckets.find? f.name).getD []).length + 1 then
        FormM.log .warning (sharedName f.name
          (((w.form.fields.buckets.find? f.name).getD []).length + 1))
      else pure ()).runIn (w.registering f.name ⟨id, chain⟩) := by
    simp [addField, runIn_bind, hfield, hfull, hchain, found, World.registering]
  rw [begun]
  split
  · exact ⟨_, .noted _ _, rfl⟩
  · exact ⟨_, .refl _, rfl⟩

/-- Registering a field either changes nothing or adds a registration. -/
theorem addField_cases (id : FieldId) (w : World) :
    (∃ f, (addField id).runIn w = (.error f, w)) ∨
      ∃ chain w', w.chainOf (w.field id) = .ok chain ∧ (w.field id).name.isKey = true ∧
        (w.registering (w.field id).name ⟨id, chain⟩).Reports w' ∧
        (addField id).runIn w = (.ok (), w') := by
  have compiling := runIn_compileRules_eq (w.field id) w
  by_cases full : (w.field id).name.truthy = true
  · cases compiled : w.chainOf (w.field id) with
    | error f =>
        left
        exact ⟨f, by simp [addField, runIn_bind, full, compiling, compiled]⟩
    | ok chain =>
        rw [compiled] at compiling
        by_cases hname : (w.field id).name.isKey = true
        · obtain ⟨w', reports, ran⟩ := runIn_addField rfl hname full compiling
          exact .inr ⟨chain, w', rfl, hname, reports, ran⟩
        · left
          refine ⟨.typeMismatch, ?_⟩
          have lookup : w.form.fields.bucket? (w.field id).name = .error .typeMismatch := by
            rw [FieldTable.bucket?, if_neg hname]
          simp [addField, runIn_bind, full, compiling, lookup]
  · left
    exact ⟨.configuration .namelessField, by simp [addField, runIn_bind, full]⟩

/-- Unregistering a field whose name can be looked up removes it, and otherwise changes nothing. -/
theorem runIn_unregisterField (id : FieldId) (w : World) :
    (unregisterField id).runIn w =
      if (w.field id).name.isKey then
        (.ok (), w.changing fun f =>
          { f with fields := f.fields.remove (w.field id).name id })
      else (.error .typeMismatch, w) := by
  by_cases hname : (w.field id).name.isKey = true
  · simp [unregisterField, runIn_bind, FieldTable.bucket?, hname]
  · simp [unregisterField, runIn_bind, FieldTable.bucket?, hname]

end Form

/-! ## Courses -/

namespace Course

variable {name : FieldId → Value} {w w' : World} {past : List Ledger}

/-- What holds after any calls: the table shows the latest ledger, in order of presence, and each
live registration stands under the name of its field. -/
structure Settled (name : FieldId → Value) (w : World) (past : List Ledger) : Prop where
  shows : w.form.fields.Shows (Ledger.latest past)
  order : w.form.fields.InOrder past
  named : ∀ e ∈ Ledger.latest past, e.1 = name e.2.field ∧ e.1.isKey = true

/-- A table that stays as it is, with a ledger that does. -/
theorem Settled.unchanged (h : Settled name w past) (same : w'.form.fields = w.form.fields) :
    Settled name w' (Ledger.latest past :: past) := by
  refine ⟨?_, ?_, h.named⟩
  · rw [same]
    exact h.shows
  · rw [same]
    exact h.order.of_sublist h.shows (.refl _)

theorem Settled.register (h : Settled name w past) {id : FieldId}
    (named : (w.field id).name = name id) {outcome : Outcome Unit}
    (ran : (Form.addField id).runIn w = (outcome, w')) :
    Settled name w' ((Call.register id).ledger w (Ledger.latest past) outcome :: past) := by
  rcases Form.addField_cases id w with ⟨f, failed⟩ | ⟨chain, w'', compiled, hname, reports, added⟩
  · cases failed.symm.trans ran
    exact h.unchanged rfl
  · cases added.symm.trans ran
    have fields : w'.form.fields = w.form.fields.add (w.field id).name ⟨id, chain⟩ := by
      rw [reports.form]
      rfl
    simp only [Call.ledger, compiled, Except.toOption, Option.join_some]
    refine ⟨?_, ?_, ?_⟩
    · rw [fields]
      exact h.shows.add hname _
    · rw [fields]
      exact h.order.add h.shows hname _
    · intro e he
      rcases List.mem_append.mp he with he | he
      · exact h.named e he
      · obtain rfl := List.mem_singleton.mp he
        exact ⟨named, hname⟩

theorem Settled.unregister (h : Settled name w past) {id : FieldId}
    (named : (w.field id).name = name id) {outcome : Outcome Unit}
    (ran : (Form.unregisterField id).runIn w = (outcome, w')) :
    Settled name w' ((Ledger.latest past).without id :: past) := by
  have hnamed (e : Value × Entry) (he : e ∈ Ledger.latest past) (same : e.2.field = id) :
      e.1 = (w.field id).name := by
    rw [(h.named e he).1, same, named]
  have kept (e : Value × Entry) (he : e ∈ (Ledger.latest past).without id) :
      e.1 = name e.2.field ∧ e.1.isKey = true := h.named e (List.mem_filter.mp he).1
  rw [Form.runIn_unregisterField] at ran
  split at ran
  · rename_i hname
    cases ran
    exact ⟨h.shows.remove hname hnamed,
      h.order.of_sublist (h.shows.remove hname hnamed) (FieldTable.keys_remove_sublist _ hname id),
      kept⟩
  · rename_i hname
    cases ran
    -- A name that cannot be looked up was never registered.
    have same : (Ledger.latest past).without id = Ledger.latest past := by
      refine List.filter_eq_self.mpr fun e he => ?_
      have other : e.2.field ≠ id := fun same => hname (hnamed e he same ▸ (h.named e he).2)
      simpa using other
    rw [same]
    exact h.unchanged rfl

theorem settled (course : Course name w past) : Settled name w past := by
  induction course with
  | start nothing =>
      refine ⟨?_, ?_, by simp [Ledger.latest]⟩
      · rw [nothing]
        exact .empty
      · rw [nothing]
        exact List.Pairwise.nil
  | aside _ same ih =>
      refine ⟨?_, ?_, ih.named⟩
      · rw [same]
        exact ih.shows
      · rw [same]
        exact ih.order
  | call _ c named ran ih =>
      cases c with
      | register id => exact ih.register named ran
      | unregister id => exact ih.unregister named ran

end Course

/-! ## Counting names -/

/-- Two lists of the same keys, each without repetitions, are equally long. -/
theorem length_eq_of_same_keys {ks ls : List Value} (hks : ∀ k ∈ ks, k.isKey = true)
    (hls : ∀ l ∈ ls, l.isKey = true) (distinct : ks.Pairwise fun a b => a.same b = false)
    (distinct' : ls.Pairwise fun a b => a.same b = false)
    (same : ∀ key, key.isKey = true →
      ((∃ k ∈ ks, k.same key = true) ↔ ∃ l ∈ ls, l.same key = true)) :
    ks.length = ls.length := by
  have nodup {xs : List Value} (hxs : ∀ x ∈ xs, x.isKey = true)
      (apart : xs.Pairwise fun a b => a.same b = false) : (xs.map Value.keyForm).Nodup := by
    refine List.pairwise_map.mpr (apart.imp_of_mem fun {a b} ha hb apart equal => ?_)
    rw [(Value.same_iff_keyForm a b (.inl (hxs a ha))).mpr equal] at apart
    cases apart
  have mem {xs : List Value} (hxs : ∀ x ∈ xs, x.isKey = true) {key : Value} :
      key.keyForm ∈ xs.map Value.keyForm ↔ ∃ x ∈ xs, x.same key = true := by
    rw [List.mem_map]
    exact exists_congr fun x => and_congr_right fun hx =>
      (Value.same_iff_keyForm x key (.inl (hxs x hx))).symm
  have perm : (ks.map Value.keyForm).Perm (ls.map Value.keyForm) := by
    refine (List.perm_ext_iff_of_nodup (nodup hks distinct)
      (nodup hls distinct')).mpr fun form => ?_
    constructor
    · intro h
      obtain ⟨k, hk, rfl⟩ := List.mem_map.mp h
      exact (mem hls).mpr ((same k (hks k hk)).mp ((mem hks).mp h))
    · intro h
      obtain ⟨l, hl, rfl⟩ := List.mem_map.mp h
      exact (mem hks).mpr ((same l (hls l hl)).mpr ((mem hls).mp h))
  simpa using perm.length_eq

namespace Ledger

variable {live : Ledger}

theorem distinct_names (h : ∀ e ∈ live, e.1.isKey = true) :
    live.names.Pairwise fun a b => a.same b = false := by
  induction live with
  | nil => exact List.Pairwise.nil
  | cons e rest ih =>
      obtain ⟨here, later⟩ := List.forall_mem_cons.mp h
      rw [names]
      split
      · rename_i last
        refine List.pairwise_cons.mpr ⟨fun b hb => ?_, ih later⟩
        obtain ⟨e', he', rfl⟩ := exists_of_mem_names hb
        by_contra same
        rw [Value.same_comm here] at same
        exact under_ne_nil_iff.mpr ⟨e', he', by simpa using same⟩ (List.isEmpty_iff.mp last)
      · exact ih later

/-- A name is among those of a ledger exactly if it has a live registration. -/
theorem exists_mem_names_iff {key : Value} (hkey : key.isKey = true) :
    (∃ k ∈ live.names, k.same key = true) ↔ live.under key ≠ [] := by
  rw [under_ne_nil_iff]
  constructor
  · rintro ⟨k, hk, same⟩
    obtain ⟨e, he, rfl⟩ := exists_of_mem_names hk
    exact ⟨e, he, same⟩
  · rintro ⟨e, he, same⟩
    induction live generalizing e with
    | nil => cases he
    | cons first rest ih =>
        rw [names]
        by_cases last : (Ledger.under rest first.1).isEmpty = true
        · rw [if_pos last]
          rcases List.mem_cons.mp he with rfl | he
          · exact ⟨_, List.mem_cons_self, same⟩
          · obtain ⟨k, hk, found⟩ := ih e he same
            exact ⟨k, List.mem_cons_of_mem _ hk, found⟩
        · rw [if_neg last]
          rcases List.mem_cons.mp he with rfl | he
          · -- The name comes again later, and is counted there.
            have isKey : e.1.isKey = true :=
              Value.isKey_of_same key e.1 (Value.same_comm hkey ▸ same) hkey
            have more : Ledger.under rest e.1 ≠ [] := fun none => last (List.isEmpty_iff.mpr none)
            obtain ⟨e', he', again⟩ := under_ne_nil_iff.mp more
            rw [Table.same_of_same isKey same] at again
            exact ih e' he' again
          · exact ih e he same

end Ledger

/-! ## What a registry tells -/

/-- What a table tells about names is what the ledgers say, of which the latest comes first. -/
structure FieldTable.Refines (t : FieldTable) (past : List Ledger) : Prop where
  contains : ∀ key, key.isKey = true →
    t.hasName key = .ok (decide ((Ledger.latest past).under key ≠ []))
  ambiguous : ∀ key, key.isKey = true →
    t.isAmbiguous key = .ok (decide (1 < ((Ledger.latest past).under key).length))
  entry : ∀ key, key.isKey = true →
    t.entry key = match (Ledger.latest past).under key with
      | [] => .error (.notRegistered key)
      | [e] => .ok e
      | several => .error (.ambiguous key several.length)
  size : t.size = (Ledger.latest past).names.length
  distinct : t.keys.Pairwise fun a b => a.same b = false
  names : ∀ key, key.isKey = true →
    ((∃ k ∈ t.keys, k.same key = true) ↔ (Ledger.latest past).under key ≠ [])
  order : t.keys.Pairwise fun a b => Ledger.presence past b < Ledger.presence past a

namespace Course

variable {name : FieldId → Value} {w : World} {past : List Ledger}

theorem Settled.refines_past (h : Settled name w past) : w.form.fields.Refines past where
  contains key hkey := by
    rw [FieldTable.hasName, FieldTable.bucket?, if_pos hkey, ok_bind, h.shows.find? hkey]
    by_cases live : (Ledger.latest past).under key = [] <;> simp [live, pure, Except.pure]
  ambiguous key hkey := by
    rw [FieldTable.isAmbiguous, FieldTable.bucket?, if_pos hkey, ok_bind, h.shows key hkey]
    rfl
  entry key hkey := by
    rw [FieldTable.entry, FieldTable.bucket?, if_pos hkey, ok_bind, h.shows.find? hkey]
    rcases (Ledger.latest past).under key with _ | ⟨e, _ | ⟨e', more⟩⟩
    · rw [if_pos rfl]
      rfl
    · rw [if_neg (List.cons_ne_nil _ _)]
      rfl
    · rw [if_neg (List.cons_ne_nil _ _)]
      rfl
  size := by
    have hkeys (e : Value × Entry) (he : e ∈ Ledger.latest past) : e.1.isKey = true :=
      (h.named e he).2
    have hnames (k : Value) (hk : k ∈ (Ledger.latest past).names) : k.isKey = true := by
      obtain ⟨e, he, rfl⟩ := Ledger.exists_of_mem_names hk
      exact hkeys e he
    have size : w.form.fields.size = w.form.fields.keys.length := (List.length_map _).symm
    rw [size]
    refine length_eq_of_same_keys (fun k hk => FieldTable.isKey_of_mem_keys hk) hnames
      w.form.fields.distinct (Ledger.distinct_names hkeys) fun key hkey => ?_
    rw [Ledger.exists_mem_names_iff hkey, ← FieldTable.contains_iff_find? h.shows hkey,
      Table.contains_iff]
    rfl
  distinct := w.form.fields.distinct
  names key hkey := by
    rw [← FieldTable.contains_iff_find? h.shows hkey, Table.contains_iff]
    rfl
  order := h.order

/-- **After any calls** a registry tells what the ledgers say, and so does a snapshot that is taken
of it. -/
theorem refines (course : Course name w past) :
    w.form.fields.Refines past ∧
      ∀ call label, ∃ w', (Session.step call (.snapshot label)).runIn w =
          (.ok (.list w.form.fields.keys), w') ∧
        (Session.heldSnapshot label).runIn w' = (.ok w.form.fields, w') := by
  refine ⟨course.settled.refines_past, fun call label => ?_⟩
  exact ⟨_, rfl, by simp [Session.heldSnapshot, runIn_bind]⟩

/-- Two fields that have not been registered yet. -/
def pair : World :=
  { World.initial .builtin (.ofOptions .default) with
    objects := [{ (default : Field) with name := .str "a" },
      { (default : Field) with name := .str "b" }] }

/-- A field that is registered twice, unregistered and registered again has lost its place. -/
theorem refines_swapped : ∃ w past,
    Course (fun id => if id = 0 then .str "a" else .str "b") w past ∧
      w.form.fields.keys = [.str "b", .str "a"] ∧ w.form.fields.Refines past := by
  have begun : Course (fun id => if id = 0 then .str "a" else .str "b") pair [] := .start rfl
  have course := ((((begun.call (.register 0) rfl rfl).call (.register 1) rfl rfl).call
    (.register 0) rfl rfl).call (.unregister 0) rfl rfl).call (.register 0) rfl rfl
  exact ⟨_, _, course, rfl, course.refines.1⟩

end Course

end FormRules
