/-
# Resolving — what keeps a document from being loaded, and what comes of one that is

The loader takes documents as they are, whether the schema accepts them or not.  It complains where
it looks for something and does not find it, and converts the rest:

    no mapping, or no form             complaint
    fields that count and are no list  complaint
    an entry that is no mapping        complaint; it is shown, which an integer of too many digits
                                       in it does not allow
    an entry without a name            complaint
    a model that is neither a mapping  no complaint: the conversion fails
      nor a sequence of pairs

The entries are read first, and the first one that is not usable decides.  So what comes to
something else than a definition or a complaint are the models of the last line, behind usable
entries only, and entries that cannot be shown (`Value.IsUnresolvable`).  A definition has one field
for each entry, in their order, and each has a name that counts.
-/
import FormRules.Proofs.Definition.Valid

namespace FormRules

namespace Value

/-! ## Models -/

/-- A sequence of two, the first of which may be a key. -/
def IsPair (v : Value) : Prop := ∃ key value, v.members? = some [key, value] ∧ key.isKey = true

/-- What a mapping can be made of: nothing that counts, a mapping, or a sequence of pairs. -/
def IsTabular (v : Value) : Prop :=
  v.truthy = false ∨ (∃ entries, v.opened = .map entries) ∨
    ∃ items, v.members? = some items ∧ ∀ item ∈ items, item.IsPair

theorem opened_opened (v : Value) : v.opened.opened = v.opened := by
  cases v with
  | ring nodes place =>
      cases node : (nodes[place]?).getD .null <;> simp [opened, node]
  | _ => rfl

theorem members?_opened (v : Value) : v.opened.members? = v.members? := by
  rw [members?, opened_opened, members?]

/-- A sequence of pairs makes a table, and anything else in it makes the conversion fail. -/
theorem tableOfItems_cases (index : Nat) (table : Table Value) (items : List Value) :
    (∃ t, tableOfItems index table items = .ok t) ∧ (∀ item ∈ items, item.IsPair) ∨
      (∃ f, tableOfItems index table items = .error f ∧ f.kind ≠ .configuration) ∧
        ¬ ∀ item ∈ items, item.IsPair := by
  induction items generalizing index table with
  | nil => exact .inl ⟨⟨table, rfl⟩, by simp⟩
  | cons item rest ih =>
      rw [List.forall_mem_cons, tableOfItems]
      split
      · rename_i none
        refine .inr ⟨⟨_, rfl, nofun⟩, ?_⟩
        rintro ⟨⟨key, value, pair, -⟩, -⟩
        cases none.symm.trans pair
      · rename_i key value pair
        split
        · rename_i isKey
          have first : item.IsPair := ⟨key, value, pair, isKey⟩
          simpa only [first, true_and] using ih _ _
        · rename_i noKey
          refine .inr ⟨⟨_, rfl, nofun⟩, ?_⟩
          rintro ⟨⟨key', value', pair', isKey⟩, -⟩
          obtain ⟨rfl, -⟩ : key = key' ∧ _ := by simpa using pair.symm.trans pair'
          exact noKey isKey
      · rename_i other some
        refine .inr ⟨⟨_, rfl, nofun⟩, ?_⟩
        rintro ⟨⟨key, value, pair, -⟩, -⟩
        exact other key value (Option.some.inj (some.symm.trans pair))

theorem toTable_of_not_map {v : Value} (counts : v.truthy = true)
    (noMap : ∀ entries, v.opened ≠ .map entries) :
    v.toTable = match v.members? with
      | some items => tableOfItems 0 [] items
      | none => .error .typeMismatch := by
  rw [toTable, counts, ← members?_opened]
  cases opened : v.opened with
  | map entries => exact absurd opened (noMap entries)
  | _ => rfl

/-- **What a mapping can be made of**, and that anything else fails, but is no complaint. -/
theorem toTable_cases (v : Value) :
    (∃ t, v.toTable = .ok t) ∧ v.IsTabular ∨
      (∃ f, v.toTable = .error f ∧ f.kind ≠ .configuration) ∧ ¬ v.IsTabular := by
  by_cases counts : v.truthy = true
  · by_cases mapping : ∃ entries, v.opened = .map entries
    · obtain ⟨entries, opened⟩ := mapping
      exact .inl ⟨⟨entries, toTable_of_opened opened⟩, .inr (.inl ⟨entries, opened⟩)⟩
    · have tabular : v.IsTabular ↔ ∃ items, v.members? = some items ∧ ∀ item ∈ items, item.IsPair := by
        simp [IsTabular, counts, mapping]
      rw [tabular, toTable_of_not_map counts fun entries opened => mapping ⟨entries, opened⟩]
      cases v.members? with
      | none => exact .inr ⟨⟨_, rfl, nofun⟩, by simp⟩
      | some items => simpa using tableOfItems_cases 0 [] items
  · have empty : v.toTable = .ok [] := by simp [toTable, counts]
    exact .inl ⟨⟨[], empty⟩, .inl (Bool.eq_false_iff.mpr counts)⟩

end Value

/-! ## Entries -/

namespace FormDefinition

/-- An entry that a field can be made of: it has a name that counts. -/
def Usable (entry : Value) : Prop := (entry.member "name").truthy = true

/-- An entry that is no mapping and cannot be shown. -/
def Unshowable (entry : Value) : Prop :=
  (∀ members, entry.opened ≠ .map members) ∧ entry.holdsLongInteger = true

theorem ofEntry_of_map {path : String} {entry : Value} {members : List (Value × Value)}
    (opened : entry.opened = .map members) :
    FieldDefinition.ofEntry path entry = if (entry.member "name").truthy then .ok (fieldIn entry)
      else misconfigured (.namelessEntry path) := by
  have read (name : String) := Value.member_of_opened opened name
  simp only [FieldDefinition.ofEntry, opened, ← read]
  cases (entry.member "name").truthy <;> rfl

theorem ofEntry_of_not_map {path : String} {entry : Value}
    (noMap : ∀ members, entry.opened ≠ .map members) :
    FieldDefinition.ofEntry path entry =
      (do entry.writable; misconfigured (.entryNotMapping path entry)) := by
  rw [FieldDefinition.ofEntry]
  split
  · rename_i members opened
    exact absurd opened (noMap members)
  · rfl

/-- A field is made of a usable entry, and any other one that can be shown is complained about. -/
theorem ofEntry_cases (path : String) (entry : Value) :
    Usable entry ∧ FieldDefinition.ofEntry path entry = .ok (fieldIn entry) ∨
      ¬ Usable entry ∧ ∃ f, FieldDefinition.ofEntry path entry = .error f ∧
        (f.kind ≠ .configuration ↔ Unshowable entry) := by
  by_cases mapping : ∃ members, entry.opened = .map members
  · obtain ⟨members, opened⟩ := mapping
    have showable : ¬ Unshowable entry := fun h => h.1 members opened
    rw [ofEntry_of_map opened]
    by_cases named : Usable entry
    · exact .inl ⟨named, if_pos named⟩
    · exact .inr ⟨named, _, if_neg named, iff_of_false (fun other => other rfl) showable⟩
  · have noMap (members : List (Value × Value)) : entry.opened ≠ .map members :=
      fun opened => mapping ⟨members, opened⟩
    have nameless : ¬ Usable entry := by
      have none : entry.member "name" = .null := by
        rw [Value.member, Value.part?]
        split
        · rename_i members opened
          exact absurd opened (noMap members)
        · rfl
      rw [Usable, none]
      exact Bool.false_ne_true
    rw [ofEntry_of_not_map noMap, Value.writable]
    cases long : entry.holdsLongInteger with
    | false =>
        refine .inr ⟨nameless, _, rfl, iff_of_false (fun other => other rfl) fun h => ?_⟩
        exact absurd (h.2.symm.trans long) (by decide)
    | true => exact .inr ⟨nameless, _, rfl, iff_of_true (by decide) ⟨noMap, long⟩⟩

/-! ## Documents -/

/-- The entries that a document lists its fields by; fields that do not count are none. -/
def Lists (document : Value) (entries : List Value) : Prop :=
  (document.member "fields").truthy = true ∧ (document.member "fields").opened = .list entries ∨
    (document.member "fields").truthy = false ∧ entries = []

/-- The first entry that is not usable cannot be shown. -/
def BreaksAt (entries : List Value) : Prop :=
  ∃ before entry after, entries = before ++ entry :: after ∧ (∀ e ∈ before, Usable e) ∧
    ¬ Usable entry ∧ Unshowable entry

theorem breaksAt_cons_iff {entry : Value} {rest : List Value} :
    BreaksAt (entry :: rest) ↔
      ¬ Usable entry ∧ Unshowable entry ∨ Usable entry ∧ BreaksAt rest := by
  constructor
  · rintro ⟨before, e, after, split, usable, broken⟩
    cases before with
    | nil =>
        cases split
        exact .inl broken
    | cons first before =>
        obtain ⟨rfl, rfl⟩ := List.cons.inj split
        obtain ⟨here, later⟩ := List.forall_mem_cons.mp usable
        exact .inr ⟨here, before, e, after, rfl, later, broken⟩
  · rintro (broken | ⟨here, before, e, after, rfl, later, broken⟩)
    · exact ⟨[], entry, rest, rfl, by simp, broken⟩
    · exact ⟨entry :: before, e, after, rfl, List.forall_mem_cons.mpr ⟨here, later⟩, broken⟩

theorem not_breaksAt {entries : List Value} (usable : ∀ e ∈ entries, Usable e) :
    ¬ BreaksAt entries := by
  rintro ⟨before, entry, after, rfl, -, unusable, -⟩
  exact unusable (usable entry (by simp))

/-- A document that comes to neither a definition nor a complaint. -/
def Unresolvable (document : Value) : Prop :=
  (∃ name, document.part? (.member "form") = some name) ∧ ∃ entries, Lists document entries ∧
    (BreaksAt entries ∨ (∀ e ∈ entries, Usable e) ∧ ¬ (document.member "model").IsTabular)

theorem entriesOf_cases (path : String) (document : Value) :
    (∃ entries, entriesOf path (document.member "fields") = .ok entries ∧ Lists document entries ∧
        ∀ others, Lists document others → others = entries) ∨
      entriesOf path (document.member "fields") = misconfigured (.fieldsNotList path) ∧
        ∀ entries, ¬ Lists document entries := by
  unfold entriesOf Lists
  cases counts : (document.member "fields").truthy with
  | false => exact .inl ⟨[], by simp⟩
  | true =>
      cases opened : (document.member "fields").opened with
      | list entries => exact .inl ⟨entries, by simp [eq_comm]⟩
      | _ => exact .inr ⟨rfl, by simp⟩

/-- The fields of entries, or what comes of the first one that is not usable. -/
theorem mapM_ofEntry_cases (path : String) (entries : List Value) :
    (∀ e ∈ entries, Usable e) ∧
        entries.mapM (FieldDefinition.ofEntry path) = .ok (entries.map fieldIn) ∨
      (¬ ∀ e ∈ entries, Usable e) ∧ ∃ f, entries.mapM (FieldDefinition.ofEntry path) = .error f ∧
        (f.kind ≠ .configuration ↔ BreaksAt entries) := by
  induction entries with
  | nil => exact .inl ⟨by simp, rfl⟩
  | cons entry rest ih =>
      rw [List.forall_mem_cons, breaksAt_cons_iff, List.mapM_cons]
      rcases ofEntry_cases path entry with ⟨here, made⟩ | ⟨broken, f, failed, blamed⟩
      · rw [made, ok_bind]
        rcases ih with ⟨later, all⟩ | ⟨broken, f, failed, blamed⟩
        · rw [all]
          exact .inl ⟨⟨here, later⟩, rfl⟩
        · rw [failed]
          refine .inr ⟨fun h => broken h.2, f, rfl, ?_⟩
          simpa [here] using blamed
      · rw [failed]
        refine .inr ⟨fun h => broken h.1, f, rfl, ?_⟩
        simpa [broken] using blamed

/-! ## Resolving -/

theorem ofDocument_of_form {path : String} {settings : Settings} {document name : Value}
    (form : document.part? (.member "form") = some name) :
    ofDocument path settings document = (do
      let entries ← entriesOf path (document.member "fields")
      let fields ← entries.mapM (FieldDefinition.ofEntry path)
      let model ← (document.member "model").toTable
      return ⟨name, fields, document.member "errorHelp",
        (document.part? (.member "validateOnEvent")).getD settings.validateOnEvent, model⟩) := by
  obtain ⟨members, opened, found⟩ := Value.part?_member_eq_some_iff.mp form
  have get (name : String) : FormOptions.member? members name = document.part? (.member name) := by
    rw [Value.part?, opened]
    rfl
  have named : FormOptions.member? members "form" = some name := found
  simp only [ofDocument, opened, named, get, Value.member]

theorem ofDocument_of_no_form (path : String) (settings : Settings) {document : Value}
    (form : ∀ name, document.part? (.member "form") ≠ some name) :
    ofDocument path settings document = misconfigured (.noForm path) := by
  rw [ofDocument]
  split
  · rename_i members opened
    have missing : FormOptions.member? members "form" = none := by
      refine Option.eq_none_iff_forall_ne_some.mpr fun name found => form name ?_
      exact Value.part?_member_eq_some_iff.mpr ⟨members, opened, found⟩
    simp only [missing]
  · rfl

/-- A document is resolved from usable entries and a model, or the first step that fails decides. -/
theorem ofDocument_cases (path : String) (settings : Settings) (document : Value) :
    (∃ d entries, ofDocument path settings document = .ok d ∧ Lists document entries ∧
        (∀ e ∈ entries, Usable e) ∧ d.fields = entries.map fieldIn) ∧ ¬ Unresolvable document ∨
      ∃ f, ofDocument path settings document = .error f ∧
        (f.kind ≠ .configuration ↔ Unresolvable document) := by
  by_cases form : ∃ name, document.part? (.member "form") = some name
  · obtain ⟨name, named⟩ := form
    rw [ofDocument_of_form named]
    rcases entriesOf_cases path document with ⟨entries, listed, lists, only⟩ | ⟨failed, none⟩
    · have unresolvable : Unresolvable document ↔ BreaksAt entries ∨
          (∀ e ∈ entries, Usable e) ∧ ¬ (document.member "model").IsTabular := by
        constructor
        · rintro ⟨-, others, lists', breaks⟩
          rwa [only others lists'] at breaks
        · exact fun breaks => ⟨⟨name, named⟩, entries, lists, breaks⟩
      rw [listed, ok_bind, unresolvable]
      rcases mapM_ofEntry_cases path entries with ⟨usable, made⟩ | ⟨broken, f, failed, blamed⟩
      · have unbroken : ¬ BreaksAt entries := not_breaksAt usable
        rw [made, ok_bind]
        rcases (document.member "model").toTable_cases with
          ⟨⟨model, converted⟩, tabular⟩ | ⟨⟨f, failed, other⟩, untabular⟩
        · rw [converted]
          refine .inl ⟨⟨_, entries, rfl, lists, usable, rfl⟩, ?_⟩
          exact not_or.mpr ⟨unbroken, fun h => h.2 tabular⟩
        · rw [failed]
          exact .inr ⟨f, rfl, iff_of_true other (.inr ⟨usable, untabular⟩)⟩
      · rw [failed]
        refine .inr ⟨f, rfl, blamed.trans ?_⟩
        exact ⟨.inl, fun h => h.resolve_right fun usable => broken usable.1⟩
    · rw [failed]
      refine .inr ⟨_, rfl, iff_of_false (fun other => other rfl) ?_⟩
      rintro ⟨-, entries, lists, -⟩
      exact none entries lists
  · rw [ofDocument_of_no_form path settings fun name named => form ⟨name, named⟩]
    exact .inr ⟨_, rfl, iff_of_false (fun other => other rfl) fun h => form h.1⟩

/-- **What loading a document comes to.**  A definition has one field for each entry of the document,
made of this entry, in their order, and all their names count; something else than a definition or
a complaint about the configuration comes of exactly those documents that are not resolvable. -/
theorem ofDocument_resolves (path : String) (settings : Settings) (document : Value) :
    (∀ d, ofDocument path settings document = .ok d →
      ∃ entries, Lists document entries ∧ d.fields = entries.map fieldIn ∧
        ∀ f ∈ d.fields, f.name.truthy = true) ∧
      ((∃ f, ofDocument path settings document = .error f ∧ f.kind ≠ .configuration) ↔
        Unresolvable document) ∧
      ∀ text, Yaml.read text = .ok document →
        ofText path settings text = ofDocument path settings document := by
  refine ⟨fun d loaded => ?_, ?_, fun text read => by rw [ofText, read]⟩
  · rcases ofDocument_cases path settings document with
      ⟨⟨d', entries, resolved, lists, usable, fields⟩, -⟩ | ⟨f, failed, -⟩
    · obtain rfl := Except.ok.inj (loaded.symm.trans resolved)
      refine ⟨entries, lists, fields, fun f hf => ?_⟩
      rw [fields] at hf
      obtain ⟨entry, hentry, rfl⟩ := List.mem_map.mp hf
      exact usable entry hentry
    · cases loaded.symm.trans failed
  · rcases ofDocument_cases path settings document with ⟨⟨d, _, resolved, -⟩, fine⟩ | ⟨f, failed, iff⟩
    · refine iff_of_false ?_ fine
      rintro ⟨f, failed, -⟩
      cases failed.symm.trans resolved
    · rw [← iff]
      constructor
      · rintro ⟨f', failed', other⟩
        obtain rfl := Except.error.inj (failed.symm.trans failed')
        exact other
      · exact fun other => ⟨f, failed, other⟩

/-- A form with one field and a model. -/
def modelled (model : Value) : Value :=
  .map [(.str "form", .str "signup"), (.str "model", model),
    (.str "fields", .list [.map [(.str "name", .str "a")]])]

/-- A model may be a sequence of pairs.  One that is a flag is not looked at before it is converted,
which is no complaint. -/
theorem modelled_resolves :
    (∃ d, ofDocument "form.yaml" (.ofEnvironment []) (modelled (.list [.str "ab"])) = .ok d ∧
      d.model = [(.str "a", .str "b")] ∧ ∀ f ∈ d.fields, f.name.truthy = true) ∧
    ofDocument "form.yaml" (.ofEnvironment []) (modelled (.bool true)) = .error .typeMismatch ∧
      Unresolvable (modelled (.bool true)) := by
  constructor
  · obtain ⟨loaded, -, -⟩ :=
      ofDocument_resolves "form.yaml" (.ofEnvironment []) (modelled (.list [.str "ab"]))
    obtain ⟨-, -, -, named⟩ := loaded _ rfl
    exact ⟨_, rfl, rfl, named⟩
  · have failed : ofDocument "form.yaml" (.ofEnvironment []) (modelled (.bool true)) =
        .error .typeMismatch := rfl
    obtain ⟨-, unresolvable, -⟩ :=
      ofDocument_resolves "form.yaml" (.ofEnvironment []) (modelled (.bool true))
    exact ⟨failed, unresolvable.mp ⟨.typeMismatch, failed, nofun⟩⟩

end FormDefinition

end FormRules
