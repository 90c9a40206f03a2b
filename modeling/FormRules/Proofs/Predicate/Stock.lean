/-
# Stock — a rule's predicate and its check come from one registration

A registry keeps predicates and checks in two tables and fills them under different conditions:

    registration            predicates         checks
    of a new name           the predicate      the check, if there is one
    of a name taken         as before          as before, even if there is a check
    all others cleared      nothing            nothing

The built-in rules are registered again whenever a form is opened, and clients register, declare and
clear in between.  What that comes to for one registry is a list of changes, and of these only the
registrations since it was cleared last matter (`Registry.made`).  The tables hold the first of them
for each name and nothing else: that is kept by a change (`Holds.change`), so by all (`holds_made`),
and whatever a registry says about a rule follows (`Holds.serves`).
-/
import FormRules.Predicate.Stock
import FormRules.Proofs.Rule.Compiling
import Mathlib.Tactic.TFAE

namespace FormRules

/-! ## Changes of one registry -/

/-- What an operation does to a single registry. -/
inductive Registry.Change where
  | registered (rule : String) (registration : Registration)
  | cleared

namespace Registry

def change (r : Registry) : Change → Registry
  | .registered rule registration => r.register rule registration
  | .cleared => r.clear

/-- The registrations that a change leaves to be considered. -/
def noted (made : List (String × Registration)) : Change → List (String × Registration)
  | .registered rule registration => made ++ [(rule, registration)]
  | .cleared => []

/-- The registrations since the registry was cleared last, those of names taken included. -/
def made (changes : List Change) : List (String × Registration) := changes.foldl noted []

end Registry

open Registry (Change)

namespace Stock

/-- The changes that the built-in rules make on a shelf. -/
def builtinChanges : Shelf → List Change
  | .standard => StandardRule.all.map fun r => .registered r.name r.registration
  | .file => FileRule.all.map fun r => .registered r.name r.registration

/-- The changes that an operation makes to the registry at a place. -/
def Operation.changes (place : Place) : Operation → List Change
  | .register place' rule registration =>
      if place' = place then [.registered rule registration] else []
  | .declare place' rule registration =>
      if declaredAt place' = place then [.registered rule registration] else []
  | .registerBuiltins => match place with
    | .shelf shelf => builtinChanges shelf
    | .own _ => []
  | .clear place' => if place' = place then [.cleared] else []

/-- All that has happened to the registry at a place. -/
def history (place : Place) (operations : List Operation) : List Change :=
  operations.flatMap (·.changes place)

variable (s : Stock) (place : Place)

theorem get_modify (place' : Place) (f : Registry → Registry) :
    (s.modify place' f).get place = if place' = place then f (s.get place) else s.get place := by
  rcases place' with (_ | _) | id <;> rcases place with (_ | _) | id' <;>
    simp [modify, get, Registries.modify, Registries.get, eq_comm]
  by_cases same : id = id'
  · rw [if_pos same, if_pos same, same]
  · rw [if_neg same, if_neg same]

theorem get_builtins :
    (s.apply .registerBuiltins).get place =
      (Operation.changes place .registerBuiltins).foldl Registry.change (s.get place) := by
  rcases place with (_ | _) | id <;>
    simp [apply, get, Registries.get, Registries.withBuiltins, Operation.changes, builtinChanges,
      List.foldl_map, Registry.change]

/-- An operation makes its changes. -/
theorem get_apply (operation : Operation) :
    (s.apply operation).get place =
      (operation.changes place).foldl Registry.change (s.get place) := by
  cases operation with
  | register place' rule registration =>
      simp only [apply, get_modify, Operation.changes]
      split <;> rfl
  | declare place' rule registration =>
      simp only [apply, get_modify, Operation.changes]
      split <;> rfl
  | registerBuiltins => exact get_builtins s place
  | clear place' =>
      simp only [apply, get_modify, Operation.changes]
      split <;> rfl

/-- Operations make their changes one after the other. -/
theorem get_after (operations : List Operation) :
    (s.after operations).get place =
      (history place operations).foldl Registry.change (s.get place) := by
  induction operations generalizing s with
  | nil => rfl
  | cons operation rest ih =>
      rw [after, List.foldl_cons, ← after, ih, get_apply, history, history, List.flatMap_cons,
        List.foldl_append]

end Stock

namespace Registry

/-! ## What the tables hold -/

theorem lookup_cons_pair {α : Type} (key key' : String) (a : α) (table : List (String × α)) :
    ((key, a) :: table).lookup key' = if key' = key then some a else table.lookup key' := by
  rw [List.lookup_cons]
  by_cases same : key' = key
  · rw [if_pos same, beq_iff_eq.mpr same]
  · rw [if_neg same, beq_eq_false_iff_ne.mpr same]

theorem lookup_concat_pair {α : Type} (key key' : String) (a : α) (table : List (String × α)) :
    (table ++ [(key, a)]).lookup key' =
      (table.lookup key').or (if key' = key then some a else none) := by
  rw [List.lookup_append, lookup_cons_pair]
  rfl

/-- The tables hold the parts of the first registration of each name, and no name twice. -/
structure Holds (r : Registry) (made : List (String × Registration)) : Prop where
  predicates : ∀ rule, r.predicates.lookup rule = (made.lookup rule).map (·.predicate)
  checks : ∀ rule, r.checks.lookup rule = (made.lookup rule).bind (·.check)
  distinct : (r.predicates.map (·.1)).Nodup

variable {r : Registry} {made : List (String × Registration)} {rule : String}
  {registration : Registration}

theorem holds_empty (name : String) : (empty name).Holds [] := ⟨fun _ => rfl, fun _ => rfl, .nil⟩

theorem Holds.contains_iff (h : r.Holds made) :
    r.contains rule = true ↔ ∃ registration, made.lookup rule = some registration := by
  rw [contains, h.predicates, Option.isSome_map, Option.isSome_iff_exists]

/-- The names of a table are those that something is found under. -/
theorem exists_lookup_iff {α : Type} {table : List (String × α)} {key : String} :
    (∃ a, table.lookup key = some a) ↔ ∃ a, (key, a) ∈ table := by
  constructor
  · rintro ⟨a, found⟩
    obtain ⟨before, after, rfl, -⟩ := List.lookup_eq_some_iff.mp found
    exact ⟨a, by simp⟩
  · rintro ⟨a, member⟩
    by_contra missing
    have none := Option.eq_none_iff_forall_not_mem.mpr (not_exists.mp missing)
    simpa using List.lookup_eq_none_iff.mp none _ member

theorem mem_keys_iff : rule ∈ r.predicates.map (·.1) ↔ r.contains rule = true := by
  rw [contains, Option.isSome_iff_exists, exists_lookup_iff]
  simp

theorem Holds.contains_eq_false_iff (h : r.Holds made) :
    r.contains rule = false ↔ made.lookup rule = none := by
  rw [contains, h.predicates, Option.isSome_map, Option.isSome_eq_false_iff,
    Option.isNone_iff_eq_none]

theorem register_of_taken (taken : r.contains rule = true) : r.register rule registration = r :=
  if_pos taken

theorem predicates_register (free : r.contains rule = false) :
    (r.register rule registration).predicates =
      r.predicates ++ [(rule, registration.predicate)] := by
  rw [register, if_neg (Bool.eq_false_iff.mp free)]

/-- Where no check is left over, a new name has the check of its registration, or none. -/
theorem lookup_checks_register (free : r.contains rule = false)
    (clean : r.checks.lookup rule = none) (rule' : String) :
    (r.register rule registration).checks.lookup rule' =
      if rule' = rule then registration.check else r.checks.lookup rule' := by
  rw [register, if_neg (Bool.eq_false_iff.mp free)]
  cases registration with
  | mk predicate check =>
      cases check with
      | some check => exact lookup_cons_pair ..
      | none =>
          show r.checks.lookup rule' = if rule' = rule then none else r.checks.lookup rule'
          by_cases here : rule' = rule
          · rw [if_pos here, here, clean]
          · rw [if_neg here]

/-- A further registration of a name is passed over. -/
theorem Holds.register_of_taken (h : r.Holds made) (taken : r.contains rule = true)
    (registration : Registration) :
    (r.register rule registration).Holds (made ++ [(rule, registration)]) := by
  obtain ⟨first, found⟩ := h.contains_iff.mp taken
  have same (rule' : String) :
      (made ++ [(rule, registration)]).lookup rule' = made.lookup rule' := by
    rw [lookup_concat_pair]
    split
    · rename_i here
      rw [here, found]
      rfl
    · rw [Option.or_none]
  rw [Registry.register_of_taken taken]
  exact ⟨fun rule' => by rw [same, h.predicates], fun rule' => by rw [same, h.checks], h.distinct⟩

/-- The first registration of a name is stored. -/
theorem Holds.register_of_free (h : r.Holds made) (free : r.contains rule = false)
    (registration : Registration) :
    (r.register rule registration).Holds (made ++ [(rule, registration)]) := by
  have missing := h.contains_eq_false_iff.mp free
  have clean : r.checks.lookup rule = none := by rw [h.checks, missing]; rfl
  refine ⟨fun rule' => ?_, fun rule' => ?_, ?_⟩
  · rw [predicates_register free, lookup_concat_pair, lookup_concat_pair, h.predicates]
    split
    · rename_i here
      rw [here, missing]
      rfl
    · rw [Option.or_none, Option.or_none]
  · rw [lookup_checks_register free clean, lookup_concat_pair, h.checks]
    split
    · rename_i here
      rw [here, missing]
      rfl
    · rw [Option.or_none]
  · rw [predicates_register free, List.map_append, List.nodup_append]
    refine ⟨h.distinct, List.pairwise_singleton _ _, ?_⟩
    rintro known member _ new rfl
    obtain rfl := List.mem_singleton.mp new
    exact Bool.noConfusion (free.symm.trans (mem_keys_iff.mp member))

/-- What the tables hold is kept by every change. -/
theorem Holds.change (h : r.Holds made) (c : Change) : (r.change c).Holds (noted made c) := by
  cases c with
  | registered rule registration =>
      cases known : r.contains rule with
      | true => exact h.register_of_taken known registration
      | false => exact h.register_of_free known registration
  | cleared => exact holds_empty r.name

/-- The tables of a registry that was made empty hold what has been registered since it was cleared
last. -/
theorem holds_made (name : String) (changes : List Change) :
    (changes.foldl Registry.change (empty name)).Holds (Registry.made changes) := by
  have run (r : Registry) (made : List (String × Registration)) (h : r.Holds made) :
      (changes.foldl Registry.change r).Holds (changes.foldl noted made) := by
    induction changes generalizing r made with
    | nil => exact h
    | cons c rest ih => exact ih _ _ (h.change c)
  exact run _ _ (holds_empty name)

/-! ## What a registry says -/

/-- The first one among registrations of a name. -/
def IsFirst (made : List (String × Registration)) (rule : String) (registration : Registration) :
    Prop :=
  ∃ before after, made = before ++ (rule, registration) :: after ∧ ∀ e ∈ before, e.1 ≠ rule

/-- The name is that of a registration. -/
def IsAmong (made : List (String × Registration)) (rule : String) : Prop :=
  ∃ registration, (rule, registration) ∈ made

/-- What a registry says about rules, given the registrations since it was cleared last. -/
structure Serves (r : Registry) (made : List (String × Registration)) : Prop where
  /-- Predicate and check of a rule are those of its first registration. -/
  first : ∀ {rule registration}, IsFirst made rule registration →
    r.get rule = .ok registration ∧ ∀ params, r.checkParams rule params =
      match registration.checked params with
      | .ok () => .ok ()
      | .error f =>
          if f.isRejection then misconfigured (.rejectedParams rule params f.message)
          else .error f
  /-- Of a name that is not registered there is neither a predicate nor a check. -/
  unknown : ∀ {rule}, ¬ IsAmong made rule →
    r.checks.lookup rule = none ∧
      r.get rule = misconfigured (.unknownRule rule r.name r.names) ∧
      ∀ params, r.checkParams rule params = misconfigured (.unknownRule rule r.name r.names)
  /-- All ways to ask for a name agree. -/
  known : ∀ rule, List.TFAE [IsAmong made rule, r.contains rule = true, rule ∈ r.names,
    ∃ registration, r.get rule = .ok registration,
    ∀ params, r.checkParams rule params ≠ misconfigured (.unknownRule rule r.name r.names)]
  distinct : r.names.Nodup

theorem isFirst_iff : IsFirst made rule registration ↔ made.lookup rule = some registration := by
  simp [IsFirst, List.lookup_eq_some_iff, bne_iff_ne, ne_comm]

theorem isAmong_iff : IsAmong made rule ↔ ∃ registration, made.lookup rule = some registration :=
  exists_lookup_iff.symm

theorem Holds.find? (h : r.Holds made) (rule : String) : r.find? rule = made.lookup rule := by
  rw [Registry.find?, h.predicates, h.checks]
  cases made.lookup rule <;> rfl

/-- A rule that is known is not refused as unknown, whatever its check says. -/
theorem checkParams_ne_unknown (found : r.find? rule = some registration) (params : List String)
    (available : List String) (name : String) :
    r.checkParams rule params ≠ misconfigured (.unknownRule rule name available) := by
  rw [checkParams_of_find? found]
  cases registration.checked params with
  | ok => exact nofun
  | error f =>
      dsimp only
      split
      · exact nofun
      · rename_i passing
        rintro ⟨⟩
        exact passing rfl

theorem Holds.serves (h : r.Holds made) : r.Serves made where
  first hfirst := by
    have found := (h.find? _).trans (isFirst_iff.mp hfirst)
    exact ⟨by rw [get, found], checkParams_of_find? found⟩
  unknown hnone := by
    have missing := Option.eq_none_iff_forall_not_mem.mpr (not_exists.mp (mt isAmong_iff.mpr hnone))
    have unknown := (h.find? _).trans missing
    exact ⟨by rw [h.checks, missing]; rfl, by rw [get, unknown], checkParams_of_not_find? unknown⟩
  known rule := by
    tfae_have 1 ↔ 2 := by rw [isAmong_iff, h.contains_iff]
    tfae_have 3 ↔ 2 := by rw [names, List.mem_mergeSort, mem_keys_iff]
    tfae_have 2 → 4 := by
      intro known
      obtain ⟨registration, found⟩ := h.contains_iff.mp known
      exact ⟨registration, by rw [get, h.find?, found]⟩
    tfae_have 4 → 5 := by
      rintro ⟨registration, got⟩ params
      cases found : r.find? rule with
      | none => rw [get, found] at got; cases got
      | some g => exact checkParams_ne_unknown found params _ _
    tfae_have 5 → 2 := by
      intro accepted
      by_contra unknown
      have missing := h.contains_eq_false_iff.mp (Bool.eq_false_iff.mpr unknown)
      exact accepted [] (checkParams_of_not_find? ((h.find? rule).trans missing) [])
    tfae_finish
  distinct := (List.mergeSort_perm _ _).nodup_iff.mpr h.distinct

end Registry

namespace Stock

theorem get_fresh (names : Nat → String) (place : Place) :
    ∃ name, (fresh names).get place = .empty name := by
  rcases place with (_ | _) | id <;> exact ⟨_, rfl⟩

/-- **Predicates and checks belong together.**  Whatever has been registered, declared and cleared,
in whatever order, a registry serves the registrations since it was cleared last: predicate and check
of a rule are those of its first one, a name that is not registered has neither, and all ways to ask
for a name agree. -/
theorem registrations_serve (names : Nat → String) (operations : List Operation) (place : Place) :
    (((fresh names).after operations).get place).Serves
      (Registry.made (history place operations)) := by
  obtain ⟨name, empty⟩ := get_fresh names place
  rw [get_after, empty]
  exact (Registry.holds_made name _).serves

/-- A check that comes with a later declaration of a name is not used. -/
example (accepting : Predicate) :
    let operations : List Operation :=
      [.register (.own 0) "rule" ⟨accepting, none⟩,
        .declare (some (.own 0)) "rule" ⟨accepting, some fun _ => .error .typeMismatch⟩]
    (((fresh fun _ => "test").after operations).get (.own 0)).checkParams "rule" ["x"] = .ok () :=
  rfl

end Stock

end FormRules
