/-
# Registrations — looking up names, and the values that a form reports

Every registration of a field table is found under its own name (`FieldTable.entry_of_mem`), since
no name comes twice and every name can be looked up.  With that, the values of a form are read off
its registrations:

    registrations of a name        value that the form reports for it
    one field                      the field's, as its kind exposes it
    several fields                 false, with a warning

`runIn_values` says that collecting the values gives exactly `World.readings` and does nothing but
report.
-/
import FormRules.Form.Fields
import FormRules.Proofs.Form.Operation
import FormRules.Proofs.Value.Equality

namespace FormRules

open FormM

namespace FieldTable

theorem entry_of_mem {t : FieldTable} {b : Value × List Entry} (hb : b ∈ t.buckets) :
    t.entry b.1 = single b.1 (some b.2) := by
  have found : t.bucket? b.1 = .ok (some b.2) := by
    rw [bucket?, if_pos (t.isKey b hb), Table.find?_of_mem t.distinct hb]
  rw [entry, found]
  rfl

theorem isKey_of_mem_keys {t : FieldTable} {name : Value} (h : name ∈ t.keys) :
    name.isKey = true := by
  obtain ⟨b, hb, rfl⟩ := List.mem_map.mp h
  exact t.isKey b hb

/-- A name is registered exactly if it is one of the names, as keys go. -/
theorem hasName_iff {t : FieldTable} {name : Value} :
    t.hasName name = .ok true ↔ ∃ key ∈ t.keys, key.same name = true := by
  rw [keys, ← Table.contains_iff]
  by_cases hname : name.isKey = true
  · have looked : t.hasName name = .ok (t.buckets.contains name) := by
      rw [hasName, bucket?, if_pos hname]
      rfl
    rw [looked, Except.ok.injEq]
  · have looked : t.hasName name = .error .typeMismatch := by
      rw [hasName, bucket?, if_neg hname]
      rfl
    rw [looked, Table.contains_iff]
    refine ⟨fun h => (nomatch h), fun ⟨key, hkey, same⟩ => ?_⟩
    exact absurd (Value.isKey_of_same key name same (isKey_of_mem_keys hkey)) hname

theorem hasName_of_entry {t : FieldTable} {name : Value} {e : Entry} (h : t.entry name = .ok e) :
    t.hasName name = .ok true := by
  rw [entry] at h
  rw [hasName]
  cases looked : t.bucket? name with
  | error f =>
      rw [looked] at h
      cases h
  | ok bucket =>
      cases bucket with
      | none =>
          rw [looked] at h
          cases h
      | some entries => rfl

/-- The registrations of a name: exactly one, or several. -/
theorem one_or_more {t : FieldTable} {b : Value × List Entry} (hb : b ∈ t.buckets) :
    (∃ e, b.2 = [e]) ∨ ∃ e e' rest, b.2 = e :: e' :: rest := by
  match h : b.2 with
  | [] => exact absurd h (t.ne_nil b hb)
  | [e] => exact .inl ⟨e, rfl⟩
  | e :: e' :: rest => exact .inr ⟨e, e', rest, rfl⟩

end FieldTable

namespace World

/-- The value that a form reports for a name with these registrations: that of its one field, or
`false` if several fields share the name. -/
def reading (w : World) : List Entry → Value
  | [e] => (w.field e.field).current
  | _ => .bool false

/-- The values that a form reports, one for each registered name, in order. -/
def readings (w : World) : Table Value := w.form.fields.buckets.map fun b => (b.1, w.reading b.2)

theorem Reports.reading {w w' : World} : w.Reports w' → w'.reading = w.reading := by
  rintro ⟨_, rfl⟩
  rfl

@[simp] theorem keys_readings (w : World) : w.readings.keys = w.form.fields.keys := by
  simp [readings, Table.keys, FieldTable.keys]

theorem distinct_readings (w : World) : w.readings.Distinct := by
  rw [Table.Distinct, keys_readings]
  exact w.form.fields.distinct

/-- Each registered name has its value among the readings. -/
theorem find?_readings {w : World} {b : Value × List Entry} (hb : b ∈ w.form.fields.buckets) :
    w.readings.find? b.1 = some (w.reading b.2) :=
  Table.find?_of_mem (e := (b.1, w.reading b.2)) w.distinct_readings
    (List.mem_map_of_mem (f := fun b => (b.1, w.reading b.2)) hb)

end World

namespace Form

/-- The value of a registered name is its reading; a shared name is reported on the way. -/
theorem runIn_valuesOf_cons {w : World} {b : Value × List Entry}
    (hb : b ∈ w.form.fields.buckets) (names : List Value) :
    ∃ w', w.Reports w' ∧ (valuesOf (b.1 :: names)).runIn w =
      (((b.1, w.reading b.2) :: ·) <$> valuesOf names).runIn w' := by
  have found := FieldTable.entry_of_mem hb
  rcases FieldTable.one_or_more hb with ⟨e, one⟩ | ⟨e, e', more, many⟩
  · refine ⟨w, .refl w, ?_⟩
    simp only [one, FieldTable.single] at found
    simp [valuesOf, runIn_bind, found, one, World.reading]
  · refine ⟨_, .noted w (.log .warning (sharedName b.1 b.2.length)), ?_⟩
    simp only [many, FieldTable.single] at found
    simp [valuesOf, runIn_bind, found, many, World.reading]

theorem runIn_valuesOf {w : World} (bs : List (Value × List Entry))
    (hbs : ∀ b ∈ bs, b ∈ w.form.fields.buckets) :
    ∃ w', w.Reports w' ∧
      (valuesOf (Table.keys bs)).runIn w = (.ok (bs.map fun b => (b.1, w.reading b.2)), w') := by
  induction bs generalizing w with
  | nil => exact ⟨w, .refl w, rfl⟩
  | cons b rest ih =>
      obtain ⟨w₁, reported, first⟩ :=
        runIn_valuesOf_cons (hbs b List.mem_cons_self) (Table.keys rest)
      have same : w₁.form = w.form := reported.form
      obtain ⟨w₂, reported', later⟩ := ih (w := w₁) fun b' hb' => by
        rw [same]
        exact hbs b' (List.mem_cons_of_mem _ hb')
      refine ⟨w₂, reported.trans reported', ?_⟩
      show (valuesOf (b.1 :: Table.keys rest)).runIn w = _
      rw [first, runIn_map, later, reported.reading]
      rfl

/-- The values of a form are its readings, and collecting them does nothing but report. -/
theorem runIn_values (w : World) :
    ∃ w', w.Reports w' ∧ values.runIn w = (.ok w.readings, w') := by
  obtain ⟨w', reported, collected⟩ := runIn_valuesOf w.form.fields.buckets fun _ hb => hb
  exact ⟨w', reported, collected⟩

end Form

end FormRules
