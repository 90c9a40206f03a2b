/-
# Evolving — how registrations turn from one state of a form into the next

Whatever changes a form, its registrations turn in one of three ways (`FieldTable.Turns`):

    stays     they are as they were
    comes     one more stands behind those of its name
    goes      those of one field under one name are gone

A world evolves into another if the states that its form has been in are among those of the other
one's, and each later state has turned out of the one before it (`World.Evolves`).  Only a
registration that comes can bring names together, so a form in which no name is shared gets no
shared name before another field is registered (`Evolves.registeredSince`).
-/
import FormRules.Proofs.Form.History
import FormRules.Proofs.Form.Lifecycle

namespace FormRules

open FormM

/-! ## Tables without shared names -/

namespace FieldTable

variable {t t' : FieldTable} {key name : Value}

/-- A name is ambiguous if it has several registrations. -/
theorem isAmbiguous_iff :
    t.isAmbiguous key = .ok true ↔ key.isKey = true ∧ 2 ≤ (t.registrations key).length := by
  by_cases hkey : key.isKey = true
  · have looked : t.isAmbiguous key = .ok (1 < (t.registrations key).length) := by
      rw [isAmbiguous, bucket?, if_pos hkey]
      rfl
    simp [looked, hkey, Nat.succ_le_iff]
  · have looked : t.isAmbiguous key = .error .typeMismatch := by
      rw [isAmbiguous, bucket?, if_neg hkey]
      rfl
    simp [looked, hkey]

/-- Looking up a name fails because of ambiguity exactly if the name is ambiguous. -/
theorem exists_entry_eq_ambiguous_iff :
    (∃ n count, t.entry key = .error (.ambiguous n count)) ↔ t.isAmbiguous key = .ok true := by
  rw [isAmbiguous_iff, registrations]
  by_cases hkey : key.isKey = true
  · have looked : t.entry key = single key (t.buckets.find? key) := by
      rw [entry, bucket?, if_pos hkey]
      rfl
    rw [looked]
    rcases t.buckets.find? key with _ | _ | ⟨e, _ | ⟨e', more⟩⟩
    · simp [single]
    · simp [single]
    · simp [single]
    · simp [single, hkey]
  · have looked : t.entry key = .error .typeMismatch := by
      rw [entry, bucket?, if_neg hkey]
      rfl
    simp [looked, hkey]

/-- No name is shared. -/
def IsPlain (t : FieldTable) : Prop := ∀ key, t.isAmbiguous key ≠ .ok true

theorem isPlain_iff :
    t.IsPlain ↔ ∀ key, key.isKey = true → (t.registrations key).length ≤ 1 := by
  refine forall_congr' fun key => ?_
  rw [Ne, isAmbiguous_iff, not_and, Nat.not_le, Nat.lt_succ_iff]

/-- Removing registrations brings no names together. -/
theorem IsPlain.remove (h : t.IsPlain) (hname : name.isKey = true) (id : FieldId) :
    (t.remove name id).IsPlain := by
  rw [isPlain_iff] at h ⊢
  intro key hkey
  have before := h key hkey
  by_cases same : name.same key = true
  · have left : (t.remove name id).registrations key =
        (t.registrations key).filter (·.field != id) := by
      simp only [registrations]
      rw [← Table.find?_congr hname same, ← Table.find?_congr hname same]
      exact find?_remove_self hname id
    rw [left]
    exact (List.length_filter_le ..).trans before
  · rw [registrations, find?_remove_of_not_same hname (by simpa using same)]
    exact before

/-- How the registrations of one state of a form turn into those of the next. -/
inductive Turns (t : FieldTable) : FieldTable → Prop
  | stays : t.Turns t
  | comes {name : Value} (hname : name.isKey = true) (e : Entry) : t.Turns (t.add name e)
  | goes {name : Value} (hname : name.isKey = true) (id : FieldId) : t.Turns (t.remove name id)

/-- Only a registration that comes brings names together. -/
theorem Turns.isPlain_or (h : t.Turns t') (plain : t.IsPlain) :
    t'.IsPlain ∨ ∃ name e, name.isKey = true ∧ t' = t.add name e := by
  cases h with
  | stays => exact .inl plain
  | comes hname e => exact .inr ⟨_, e, hname, rfl⟩
  | goes hname id => exact .inl (plain.remove hname id)

end FieldTable

/-! ## Evolving -/

namespace World

/-- A field has been registered in the history of a world that begins where another one is. -/
def RegisteredSince (w : World) (history : List Form) : Prop :=
  ∃ f g past name e, f :: g :: past <:+ history ∧ w.states <:+ g :: past ∧ name.isKey = true ∧
    f.fields = g.fields.add name e

theorem RegisteredSince.mono {w : World} {history longer : List Form}
    (h : w.RegisteredSince history) (suffix : history <:+ longer) : w.RegisteredSince longer := by
  obtain ⟨f, g, past, name, e, states, rest⟩ := h
  exact ⟨f, g, past, name, e, states.trans suffix, rest⟩

/-- The history of the form goes on, and its registrations turn from each state into the next. -/
structure Evolves (w w' : World) : Prop where
  longer : w.states <:+ w'.states
  turns : ∀ f g past, f :: g :: past <:+ w'.states → w.states <:+ g :: past →
    g.fields.Turns f.fields

variable {w w' : World}

theorem Evolves.of_states (same : w'.states = w.states) : w.Evolves w' where
  longer := same ▸ List.suffix_refl _
  turns _ _ _ suffix since :=
    absurd ((same ▸ suffix).length_le.trans since.length_le) (Nat.not_succ_le_self _)

theorem Evolves.changing (w : World) {g : Form → Form}
    (turned : w.form.fields.Turns (g w.form).fields) : w.Evolves (w.changing g) where
  longer := states_suffix_changing w g
  turns f f₀ past suffix since := by
    rcases List.suffix_cons_iff.mp suffix with present | before
    · obtain ⟨rfl, rest⟩ := List.cons.inj present
      obtain ⟨rfl, -⟩ := List.cons.inj rest
      exact turned
    · exact absurd (before.length_le.trans since.length_le) (Nat.not_succ_le_self _)

theorem evolves_chained : Chained Evolves where
  refl _ := .of_states rfl
  trans {w w₁ w'} first later := by
    refine ⟨first.longer.trans later.longer, fun f g past suffix since => ?_⟩
    -- The state is one of those before the point between, or of those after it.
    rcases List.suffix_or_suffix_of_suffix suffix later.longer with before | after
    · exact first.turns f g past before since
    · rcases List.suffix_cons_iff.mp after with same | after
      · exact first.turns f g past (same ▸ List.suffix_refl _) since
      · exact later.turns f g past suffix after

theorem evolves_frame : Frame (fun _ => True) Evolves where
  refl := evolves_chained.refl
  trans := evolves_chained.trans
  noted _ _ := .of_states rfl
  recording w _ _ _ _ _ := .changing w .stays

/-- **A form without shared names gets one only after another field has been registered.** -/
theorem Evolves.registeredSince (evolves : w.Evolves w') (plain : w.form.fields.IsPlain)
    {f : Form} {past : List Form} (suffix : f :: past <:+ w'.states)
    (since : w.states <:+ f :: past) :
    f.fields.IsPlain ∨ w.RegisteredSince (f :: past) := by
  induction past generalizing f with
  | nil =>
      obtain ⟨rfl, -⟩ := List.cons.inj (since.eq_of_length_le (by simp [states]))
      exact .inl plain
  | cons g past ih =>
      rcases List.suffix_cons_iff.mp since with present | since
      · obtain ⟨rfl, -⟩ := List.cons.inj present
        exact .inl plain
      · have longer : g :: past <:+ f :: g :: past := List.suffix_cons f _
        rcases ih (longer.trans suffix) since with plain' | registered
        · rcases (evolves.turns f g past suffix since).isPlain_or plain' with
            plain | ⟨name, e, hname, added⟩
          · exact .inl plain
          · exact .inr ⟨f, g, past, name, e, List.suffix_refl _, since, hname, added⟩
        · exact .inr (registered.mono longer)

end World

end FormRules
