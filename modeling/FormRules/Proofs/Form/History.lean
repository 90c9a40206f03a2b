/-
# History — the states that a form passes through

A world keeps the states that its form has been in.  What operations record accumulates over them
(`Form.Accumulates`):

    named     a name with an entry is registered, in that state or in one before it
    said      an entry is `false`, `true` or a message that is not empty
    kept      names with an entry in a state before still have one, in the same order

Each change of a form leaves the table of errors alone or records for one name (`Form.Follows`), and
then the new state accumulates as well (`Accumulates.unchanged`, `Accumulates.record`).  A pass
records for names of a table of fields that it took hold of when it began, and the registrations may
be others by the time it does.  So what a pass keeps is said for names that are known, which they
stay while the history goes on (`World.AdvancesFor`).
-/
import FormRules.Proofs.Form.Validation

namespace FormRules

open FormM

namespace Form

/-- A state of a form, after the states before it, the latest first: its entries are for names that
are or were registered, each says something, and none of the earlier ones is gone. -/
structure Accumulates (earlier : List Form) (f : Form) : Prop where
  named : ∀ name ∈ f.errors.table.keys, ∃ g ∈ f :: earlier, g.fields.hasName name = .ok true
  said : ∀ e ∈ f.errors.table,
    e.2 = .bool false ∨ e.2 = .bool true ∨ ∃ s, s ≠ "" ∧ e.2 = .str s
  kept : ∀ g ∈ earlier, g.errors.table.keys <+: f.errors.table.keys

namespace Accumulates

variable {f f' : Form} {earlier : List Form}

theorem of_nothing (nothing : f.errors.table = []) : Accumulates [] f where
  named _ hname := by
    rw [nothing] at hname
    cases hname
  said _ he := by
    rw [nothing] at he
    cases he
  kept _ hg := nomatch hg

/-- Names that had an entry before the latest state had one in it. -/
theorem kept_of_kept (h : Accumulates earlier f)
    (latest : f.errors.table.keys <+: f'.errors.table.keys) :
    ∀ g ∈ f :: earlier, g.errors.table.keys <+: f'.errors.table.keys := by
  intro g hg
  rcases List.mem_cons.mp hg with rfl | hg
  · exact latest
  · exact (h.kept g hg).trans latest

theorem unchanged (h : Accumulates earlier f) (same : f'.errors.table = f.errors.table) :
    Accumulates (f :: earlier) f' where
  named name hname := by
    obtain ⟨g, hg, registered⟩ := h.named name (same ▸ hname)
    exact ⟨g, List.mem_cons_of_mem _ hg, registered⟩
  said e he := h.said e (same ▸ he)
  kept := h.kept_of_kept (same ▸ List.prefix_refl _)

/-- Recording for a name that is or was registered. -/
theorem record (h : Accumulates earlier f) {name : Value}
    (known : ∃ g ∈ f :: earlier, g.fields.hasName name = .ok true) {stored : Value}
    (entry : stored.IsEntry) :
    Accumulates (f :: earlier) { f with errors := f.errors.record name stored } where
  named key hkey := by
    have named : ∃ g ∈ f :: earlier, g.fields.hasName key = .ok true := by
      obtain ⟨e, he, rfl⟩ := List.mem_map.mp hkey
      rcases Table.mem_put he with old | ⟨-, new | replaced⟩
      · exact h.named e.1 (List.mem_map_of_mem old)
      · exact new ▸ known
      · exact h.named e.1 replaced
    obtain ⟨g, hg, registered⟩ := named
    exact ⟨g, List.mem_cons_of_mem _ hg, registered⟩
  said e he := by
    rcases Table.mem_put he with old | ⟨new, -⟩
    · exact h.said e old
    · rw [new]
      exact entry
  kept := h.kept_of_kept (Table.keys_prefix_put _ _ _)

end Accumulates

/-- A state has the entries of the latest one before it, with a value for a name. -/
def PutsFor (f : Form) (name : Value) : List Form → Prop
  | [] => False
  | g :: _ => ∃ value, f.errors.table = g.errors.table.put name value

/-- A state, after the states before it: the first one has no entries, and each further one has those
of the one before it, or puts a value for a name that is or was registered. -/
def Follows (f : Form) : List Form → Prop
  | [] => f.errors.table = []
  | g :: earlier => f.errors.table = g.errors.table ∨ ∃ name, f.PutsFor name (g :: earlier) ∧
      ∃ h ∈ g :: earlier, h.fields.hasName name = .ok true

end Form

namespace World

/-- The states that the form has been in so far, the latest first. -/
def states (w : World) : List Form := w.form :: w.past

/-- A name that is registered or was so at some time. -/
def Knows (w : World) (name : Value) : Prop := ∃ f ∈ w.states, f.fields.hasName name = .ok true

/-- Every state so far follows those before it and accumulates what they have recorded, and what the
client holds of the registrations are names that are known. -/
structure Sound (w : World) : Prop where
  accumulates : ∀ f earlier, f :: earlier <:+ w.states → f.Accumulates earlier
  follows : ∀ f earlier, f :: earlier <:+ w.states → f.Follows earlier
  snapshots : ∀ s ∈ w.held.snapshots, ∀ name, s.2.hasName name = .ok true → w.Knows name

variable {w w' : World}

theorem Knows.mono {name : Value} (h : w.Knows name) (longer : w.states <:+ w'.states) :
    w'.Knows name := by
  obtain ⟨f, hf, registered⟩ := h
  exact ⟨f, longer.subset hf, registered⟩

theorem knows_of_hasName {name : Value} (h : w.form.fields.hasName name = .ok true) :
    w.Knows name :=
  ⟨w.form, List.mem_cons_self, h⟩

theorem states_suffix_changing (w : World) (g : Form → Form) : w.states <:+ (w.changing g).states :=
  List.suffix_cons _ _

namespace Sound

/-- A form that has just been opened has a sound history. -/
theorem of_alone (past : w.past = []) (nothing : w.form.errors.table = [])
    (snapshots : w.held.snapshots = []) : w.Sound where
  accumulates f earlier suffix := by
    rw [states, past] at suffix
    rcases List.suffix_cons_iff.mp suffix with present | before
    · obtain ⟨rfl, rfl⟩ := List.cons.inj present
      exact .of_nothing nothing
    · exact absurd (List.suffix_nil.mp before) (List.cons_ne_nil _ _)
  follows f earlier suffix := by
    rw [states, past] at suffix
    rcases List.suffix_cons_iff.mp suffix with present | before
    · obtain ⟨rfl, rfl⟩ := List.cons.inj present
      exact nothing
    · exact absurd (List.suffix_nil.mp before) (List.cons_ne_nil _ _)
  snapshots s hs := by
    rw [snapshots] at hs
    cases hs

theorem present (h : w.Sound) : w.form.Accumulates w.past := h.accumulates _ _ (List.suffix_refl _)

/-- A history goes on with a state that follows what is in it and accumulates it. -/
theorem changing (h : w.Sound) {g : Form → Form} (hg : (g w.form).Accumulates w.states)
    (next : (g w.form).Follows w.states) : (w.changing g).Sound where
  accumulates f earlier suffix := by
    rcases List.suffix_cons_iff.mp suffix with present | before
    · obtain ⟨rfl, rfl⟩ := List.cons.inj present
      exact hg
    · exact h.accumulates f earlier before
  follows f earlier suffix := by
    rcases List.suffix_cons_iff.mp suffix with present | before
    · obtain ⟨rfl, rfl⟩ := List.cons.inj present
      exact next
    · exact h.follows f earlier before
  snapshots s hs name registered :=
    (h.snapshots s hs name registered).mono (states_suffix_changing w g)

end Sound

/-! ## Operations that carry a history on -/

/-- A sound history is carried on to a sound one. -/
def Advances (w w' : World) : Prop := w.Sound → w'.Sound ∧ w.states <:+ w'.states

/-- A sound history in which all names that satisfy `P` are known is carried on to a sound one. -/
def AdvancesFor (P : Value → Prop) (w w' : World) : Prop := (∀ name, P name → w.Knows name) →
  w.Advances w'

theorem advances_chained : Chained Advances where
  refl _ sound := ⟨sound, List.suffix_refl _⟩
  trans first later sound := by
    obtain ⟨sound, longer⟩ := first sound
    obtain ⟨sound, longer'⟩ := later sound
    exact ⟨sound, longer.trans longer'⟩

/-- What is not looked at may change. -/
theorem advances_of_same (form : w'.form = w.form) (past : w'.past = w.past)
    (snapshots : w'.held.snapshots = w.held.snapshots) : w.Advances w' := by
  intro sound
  have states : w'.states = w.states := by rw [World.states, form, past]; rfl
  refine ⟨⟨?_, ?_, ?_⟩, states ▸ List.suffix_refl _⟩
  · rw [states]
    exact sound.accumulates
  · rw [states]
    exact sound.follows
  · rw [snapshots]
    intro s hs name registered
    exact (sound.snapshots s hs name registered).mono (states ▸ List.suffix_refl _)

/-- A change of the form that leaves the errors alone. -/
theorem advances_changing {g : Form → Form}
    (same : (g w.form).errors.table = w.form.errors.table) : w.Advances (w.changing g) :=
  fun sound => ⟨sound.changing (sound.present.unchanged same) (.inl same),
    states_suffix_changing w g⟩

theorem advancesFor_frame (P : Value → Prop) : Frame P (AdvancesFor P) where
  refl w _ := advances_chained.refl w
  trans first later known sound := by
    obtain ⟨sound', longer⟩ := first known sound
    obtain ⟨sound'', longer'⟩ := later (fun name h => (known name h).mono longer) sound'
    exact ⟨sound'', longer.trans longer'⟩
  noted _ _ _ := advances_of_same rfl rfl rfl
  recording w name stored entry hname _ known sound :=
    ⟨sound.changing (sound.present.record (known name hname) entry)
      (.inr ⟨name, ⟨_, rfl⟩, known name hname⟩), states_suffix_changing w _⟩

end World

end FormRules
