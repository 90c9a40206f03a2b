/-
# Collisions — the warnings about a document foretell the ambiguous names of its form

Two walks come by the names of the fields of a document.  One examines the document, with the names
that it has seen and those that it has reported; the other builds the form, and puts each field
behind those that are registered under its name.  They find the same names:

    a name of the document     warnings about it     registrations in the form
    comes once                 none                  one
    comes several times        one                   several, so it is ambiguous

`warnings_foretell` is this table, for the form as it has been built.  After that the client makes
requests, and its functions do so while they run.  Whatever they do, the registrations evolve
(`after_evolves`), so a document without warnings has a form without ambiguous names until another
field is registered.
-/
import FormRules.Proofs.Definition.Repetition
import FormRules.Proofs.Form.Evolving
import FormRules.Proofs.Form.Sharing
import FormRules.Proofs.Session.Assembly
import FormRules.Proofs.Session.Journal

namespace FormRules

open FormM World

/-! ## Requests -/

theorem World.evolves_attending : Attending Evolves where
  refl := evolves_chained.refl
  trans := evolves_chained.trans
  noted _ _ _ := .of_states rfl
  aside form past _ _ := .of_states (by rw [states, form, past, states])
  adding w _ e hname := .changing w (.comes hname e)
  removing w _ id hname := .changing w (.goes hname id)
  subscribing w _ := .changing w .stays
  unsubscribing w _ := .changing w .stays

namespace Session

theorem step_evolves (call : Caller) (hcall : ∀ f args, Keeps Evolves (call f args))
    (r : Request) : Keeps Evolves (step call r) :=
  step_keeps_of evolves_attending (evolves_frame.validates hcall) (fun _ _ => .of_states rfl)
    (fun _ g _ fields w => .changing w (by rw [fields w.form]; exact .stays))
    fun _ name isError detail =>
      Form.setError_keeps evolves_frame (fun f args _ => hcall f args) name trivial isError detail

/-- A request lets the registrations evolve, however deeply the calls that it leads to are nested. -/
theorem perform_evolves (behaviour : Behaviour) (depth : Nat) (r : Request) :
    Keeps Evolves (perform behaviour depth r) :=
  perform_keeps evolves_attending.toAside evolves_frame.noted
    (fun _ _ _ => Script.makes_anything _) (fun call hcall r _ => step_evolves call hcall r) depth r
    trivial

theorem after_evolves (behaviour : Behaviour) (requests : List Request) (w : World) :
    w.Evolves (after behaviour w requests) := by
  induction requests generalizing w with
  | nil => exact evolves_chained.refl w
  | cons r rest ih =>
      exact evolves_chained.trans (perform_evolves behaviour nestingLimit r w) (ih _)

/-! ## Building -/

/-- A field that has been registered is the last one under its name. -/
theorem exists_lifecycle_of_registered {w w' : World} {live : Ledger} {id : FieldId}
    (life : Lifecycle w live) (ran : (Form.registerField id).runIn w = (.ok (), w')) :
    ∃ e, Lifecycle w' (live ++ [((w.field id).name, e)]) := by
  have admits : w.Admits id := by
    by_contra refused
    obtain ⟨f, failed⟩ := Form.runIn_addField_of_not_admits refused
    cases ran.symm.trans (runIn_bind_error failed)
  obtain ⟨chain, compiled, -⟩ := Form.fields_of_registerField admits ran
  exact ⟨_, Ledger.joining_of_admits admits compiled ▸ life.register id ran⟩

section Building

variable {values : Value} {validators : Table HookSource} {w w' : World} {live : Ledger}

/-- Building a definition begins with a new field that is registered under its name. -/
theorem exists_lifecycle_of_built_cons {d : FieldDefinition} {rest : List FieldDefinition}
    (life : Lifecycle w live)
    (built : (buildFields values validators (d :: rest)).runIn w = (.ok (), w')) :
    ∃ e w₁, Lifecycle w₁ (live ++ [(d.name, e)]) ∧
      (buildFields values validators rest).runIn w₁ = (.ok (), w') := by
  by_cases hname : d.name.isKey = true
  · obtain ⟨validator, n, taken⟩ := runIn_takeHook (.validator d.name)
      ((validators.find? d.name).getD (.value .null)) w
    rw [buildFields, if_neg (by simp [hname]), runIn_bind_ok taken,
      runIn_bind_ok (runIn_newField _ _)] at built
    obtain ⟨⟨⟩, w₁, registered, built⟩ := exists_of_runIn_bind built
    have made : Lifecycle (w.making (d.fresh validator) n) live := life.aside rfl
    obtain ⟨e, life'⟩ := exists_lifecycle_of_registered made registered
    rw [World.field_making] at life'
    obtain ⟨has, w₂, looked, built⟩ := exists_of_runIn_bind built
    obtain ⟨-, rfl⟩ := Prod.mk.inj looked
    cases has with
    | false => exact ⟨e, w₁, life', built⟩
    | true =>
        -- Looking a value up and storing it in the field leaves the registrations alone.
        obtain ⟨v, w₂, looked, built⟩ := exists_of_runIn_bind built
        obtain ⟨-, rfl⟩ := Prod.mk.inj looked
        rw [runIn_bind_ok (runIn_field _ _)] at built
        obtain ⟨f, w₂, stored, built⟩ := exists_of_runIn_bind built
        obtain ⟨-, rfl⟩ := Prod.mk.inj stored
        rw [runIn_bind_ok (runIn_setField _ _ _)] at built
        exact ⟨e, w₁.setField w.objects.length f, life'.aside rfl, built⟩
  · have refused : (buildFields values validators (d :: rest)).runIn w =
        (.error .typeMismatch, w) := by simp [buildFields, hname]
    cases built.symm.trans refused

/-- Building definitions registers fields under their names, one after the other. -/
theorem exists_lifecycle_of_built {ds : List FieldDefinition} (life : Lifecycle w live)
    (built : (buildFields values validators ds).runIn w = (.ok (), w')) :
    ∃ more : Ledger, more.map (·.1) = ds.map (·.name) ∧ Lifecycle w' (live ++ more) := by
  induction ds generalizing w live with
  | nil =>
      obtain ⟨-, rfl⟩ := Prod.mk.inj built
      exact ⟨[], rfl, by rwa [List.append_nil]⟩
  | cons d rest ih =>
      obtain ⟨e, w₁, life, built⟩ := exists_lifecycle_of_built_cons life built
      obtain ⟨more, names, life⟩ := ih life built
      refine ⟨(d.name, e) :: more, by rw [List.map_cons, names, List.map_cons], ?_⟩
      rwa [List.append_assoc] at life

/-- The form that has been opened from a definition has its fields, under their names. -/
theorem exists_lifecycle_of_opened {d : FormDefinition} {given : Given}
    {extra : List (String × Value)}
    (opened : (Session.open (.definition d given extra values validators)).runIn w = (.ok (), w')) :
    ∃ live : Ledger, live.map (·.1) = d.fields.map (·.name) ∧ Lifecycle w' live := by
  obtain ⟨hooks, w₁, -, opened⟩ := exists_of_runIn_bind opened
  obtain ⟨named, w₂, -, opened⟩ := exists_of_runIn_bind opened
  obtain ⟨f, w₃, found, opened⟩ := exists_of_runIn_bind opened
  obtain ⟨o, -, accepted⟩ := bind_eq_ok_iff.mp (congrArg Prod.fst found)
  obtain ⟨rfl, -⟩ := Form.accept_of_opened accepted
  obtain ⟨⟨⟩, w₄, started, built⟩ := exists_of_runIn_bind opened
  obtain ⟨-, rfl⟩ := Prod.mk.inj started
  exact exists_lifecycle_of_built (.start rfl) built

end Building

end Session

/-! ## Ambiguous names -/

namespace Lifecycle

variable {w : World} {live : Ledger} {names : List String}

/-- The registrations under a text are as many as the text comes among the names. -/
theorem length_registrations_str (life : Lifecycle w live)
    (named : live.map (·.1) = names.map .str) (name : String) :
    (w.form.fields.registrations (.str name)).length = names.count name := by
  have counted : (live.under (.str name)).length =
      ((live.map (·.1)).filter (·.same (.str name))).length := by
    rw [Ledger.under, List.length_map, List.filter_map, List.length_map]
    rfl
  have shown : w.form.fields.registrations (.str name) = live.under (.str name) :=
    life.shows.1 (.str name) rfl
  rw [shown, counted, named, List.filter_map, List.length_map, List.count_eq_length_filter]
  simp only [Function.comp_def, Value.same_str]

/-- Nothing is registered under anything else. -/
theorem registrations_of_not_str (life : Lifecycle w live)
    (named : live.map (·.1) = names.map .str) {key : Value} (hkey : key.isKey = true)
    (other : ∀ name, key ≠ .str name) : w.form.fields.registrations key = [] := by
  have shown : w.form.fields.registrations key = live.under key := life.shows.1 key hkey
  rw [shown]
  by_contra some
  obtain ⟨e, he, same⟩ := Ledger.under_ne_nil_iff.mp some
  obtain ⟨name, -, here⟩ := List.mem_map.mp (named ▸ List.mem_map_of_mem he : e.1 ∈ _)
  rw [← here, Value.same_comm rfl] at same
  exact other name (Value.same_str_iff.mp same)

/-- The ambiguous names are those that come again. -/
theorem isAmbiguous_iff (life : Lifecycle w live) (named : live.map (·.1) = names.map .str)
    (key : Value) :
    w.form.fields.isAmbiguous key = .ok true ↔ ∃ name ∈ secondComings names, key = .str name := by
  rw [FieldTable.isAmbiguous_iff]
  by_cases text : ∃ name, key = .str name
  · obtain ⟨name, rfl⟩ := text
    rw [life.length_registrations_str named, ← mem_secondComings_iff]
    constructor
    · rintro ⟨-, again⟩
      exact ⟨name, again, rfl⟩
    · rintro ⟨_, again, ⟨⟩⟩
      exact ⟨rfl, again⟩
  · have other : ∀ name, key ≠ .str name := not_exists.mp text
    constructor
    · rintro ⟨hkey, several⟩
      rw [life.registrations_of_not_str named hkey other] at several
      cases several
    · rintro ⟨name, -, same⟩
      exact absurd same (other name)

end Lifecycle

/-! ## Warnings -/

namespace FormDefinition

open Session

/-- **The names that a document is warned about are the ambiguous names of its form.**  If there are
no errors about a document, then there is one warning for each name that comes again, in the order in
which the names come for the second time, and nothing else.  Of any form that is built of it these
names are ambiguous, and no other keys.  If there are no warnings, then no name is ambiguous in any
state of the form, whatever is requested, until another field has been registered. -/
theorem warnings_foretell {document : Value} {issues : List Issue}
    (examined : Issue.ofDocument document = .ok issues)
    (fine : ∀ i ∈ issues, i.severity ≠ .error) (path : String) (settings : Settings) :
    ∃ (d : FormDefinition) (names : List String), ofDocument path settings document = .ok d ∧
      d.fields.map (·.name) = names.map .str ∧
      issues = (secondComings names).map (fun name => Issue.sharedName (.str name)) ∧
      (secondComings names).Nodup ∧
      ∀ given extra values validators w w',
        (Session.open (.definition d given extra values validators)).runIn w = (.ok (), w') →
        (∀ key, w'.form.fields.isAmbiguous key = .ok true ↔
          ∃ name ∈ secondComings names, key = .str name) ∧
        (issues = [] → ∀ behaviour requests f past,
          f :: past <:+ (after behaviour w' requests).states → w'.states <:+ f :: past →
            (∃ key n count, f.fields.entry key = .error (.ambiguous n count)) →
              w'.RegisteredSince (f :: past)) := by
  have accepted : schema.Accepts document := accepts_of_ofDocument examined fine
  rw [issues_of_accepts accepted] at examined
  obtain ⟨-, -, rfl⟩ := map_eq_ok_iff.mp examined
  refine ⟨inDocument settings document, namesIn document,
    ofDocument_of_accepts accepted path settings, map_name_fieldsIn accepted, rfl,
    nodup_secondComings _, ?_⟩
  intro given extra values validators w w' opened
  obtain ⟨live, registered, life⟩ := exists_lifecycle_of_opened opened
  have named : live.map (·.1) = (namesIn document).map .str :=
    registered.trans (map_name_fieldsIn accepted)
  have ambiguous := life.isAmbiguous_iff named
  refine ⟨ambiguous, fun silent behaviour requests f past suffix since collision => ?_⟩
  have plain : w'.form.fields.IsPlain := by
    intro key shared
    obtain ⟨name, again, -⟩ := (ambiguous key).mp shared
    rw [List.map_eq_nil_iff.mp silent] at again
    cases again
  obtain ⟨key, collision⟩ := collision
  have shared := FieldTable.exists_entry_eq_ambiguous_iff.mp collision
  have evolves : w'.Evolves (after behaviour w' requests) := after_evolves behaviour requests w'
  rcases evolves.registeredSince plain suffix since with plain | registered
  · exact absurd shared (plain key)
  · exact registered

/-- A document with fields of these names. -/
def documentOf (names : List String) : Value :=
  .map [(.str "form", .str "names"),
    (.str "fields", .list (names.map fun name => .map [(.str "name", .str name)]))]

/-- The form that is built of such a document, opened with functions that answer `true`. -/
def openingOf (names : List String) : Opening :=
  .definition (inDocument (.ofEnvironment []) (documentOf names)) [(.accept, .script 0)] [] .null []

/-- Of two fields with the name `a` a form is built in which that name is ambiguous, and no other
key.  Where one field has that name there is no such key, until another field is registered. -/
theorem documentOf_foretold :
    (Issue.ofDocument (documentOf ["a", "b", "a"]) = .ok [Issue.sharedName (.str "a")] ∧
      ∃ w, (Session.open (openingOf ["a", "b", "a"])).runIn (Session.world .builtin) =
          (.ok (), w) ∧
        ∀ key, w.form.fields.isAmbiguous key = .ok true ↔ key = .str "a") ∧
      Issue.ofDocument (documentOf ["a", "b"]) = .ok [] ∧
      ∃ w, (Session.open (openingOf ["a", "b"])).runIn (Session.world .builtin) = (.ok (), w) ∧
        (∀ key, w.form.fields.isAmbiguous key ≠ .ok true) ∧
        (∃ n count, (after affirming w [registerAs "x"]).form.fields.entry (.str "a") =
          .error (.ambiguous n count)) ∧
        w.RegisteredSince (after affirming w [registerAs "x"]).states := by
  have texts {names names' : List String} (h : names.map Value.str = names'.map .str) :
      names = names' := List.map_injective_iff.mpr (fun _ _ => Value.str.inj) h
  constructor
  · have accepted : schema.Accepts (documentOf ["a", "b", "a"]) := by rfl
    have examined : Issue.ofDocument (documentOf ["a", "b", "a"]) =
        .ok [Issue.sharedName (.str "a")] := issues_of_accepts accepted
    obtain ⟨d, names, loaded, named, -, -, foretold⟩ :=
      warnings_foretell examined (by decide) "names.yaml" (.ofEnvironment [])
    obtain rfl : inDocument (.ofEnvironment []) (documentOf ["a", "b", "a"]) = d :=
      Except.ok.inj loaded
    obtain rfl : ["a", "b", "a"] = names := texts named
    rcases opened : (Session.open (openingOf ["a", "b", "a"])).runIn (Session.world .builtin)
      with ⟨outcome, w⟩
    obtain rfl : .ok () = outcome := congrArg Prod.fst opened
    obtain ⟨ambiguous, -⟩ := foretold _ _ _ _ _ _ opened
    have again : secondComings ["a", "b", "a"] = ["a"] := by rfl
    refine ⟨examined, w, rfl, fun key => (ambiguous key).trans ?_⟩
    simp [again]
  · have accepted : schema.Accepts (documentOf ["a", "b"]) := by rfl
    have examined : Issue.ofDocument (documentOf ["a", "b"]) = .ok [] := issues_of_accepts accepted
    obtain ⟨d, names, loaded, named, -, -, foretold⟩ :=
      warnings_foretell examined nofun "names.yaml" (.ofEnvironment [])
    obtain rfl : inDocument (.ofEnvironment []) (documentOf ["a", "b"]) = d :=
      Except.ok.inj loaded
    obtain rfl : ["a", "b"] = names := texts named
    have silent : secondComings ["a", "b"] = [] := by rfl
    rcases opened : (Session.open (openingOf ["a", "b"])).runIn (Session.world .builtin)
      with ⟨outcome, w⟩
    obtain rfl : .ok () = outcome := congrArg Prod.fst opened
    obtain ⟨ambiguous, untilRegistered⟩ := foretold _ _ _ _ _ _ opened
    have plain : ∀ key, w.form.fields.isAmbiguous key ≠ .ok true := by simp [ambiguous, silent]
    have collision : ∃ n count, (after affirming w [registerAs "x"]).form.fields.entry (.str "a") =
        .error (.ambiguous n count) := by
      obtain rfl := congrArg Prod.snd opened
      exact ⟨.str "a", 2, rfl⟩
    have longer : w.states <:+ (after affirming w [registerAs "x"]).states :=
      (after_evolves affirming _ w).longer
    exact ⟨examined, w, rfl, plain, collision,
      untilRegistered rfl affirming _ _ _ (List.suffix_refl _) longer ⟨_, collision⟩⟩

end FormDefinition

end FormRules
