/-
# Journals — updates of the errors, and the calls of listeners that they make

An update replaces the table of errors and then calls the listeners one after the other.  A listener
may record, subscribe and unsubscribe while it runs, so updates are nested to any depth and the
listeners change while they are called.  A *journal* flattens this: it lists what happens in the
order in which it happens.

    act            happens when                              in a proper journal
    update         the table is replaced                     the calls for it that follow are of the
                                                             listeners of that moment, in order,
                                                             with the table from before it
    call           a listener is called for an update        it comes after the update, and is handed
                                                             the table of that moment
    subscribe      a listener is subscribed
    unsubscribe    a subscription is ended

Updates are told apart by their numbers.  The calls for an update stand between those of the updates
that the listeners make, and belong together by the number (`callsFor`).  What carries the proof is
that a journal makes calls for its own updates only (`Journaled.own`), so journals can be put one
after the other without adding to the calls for an earlier update (`Proper.append`).
-/
import FormRules.Proofs.Form.Validation
import FormRules.Proofs.Value.Equality
import FormRules.Proofs.Value.Keys

namespace FormRules

open FormM

namespace ErrorState

/-! ## Acts and journals -/

/-- Something that happens to the recorded errors or to those who listen to them. -/
inductive Act where
  | update (number : Nat) (name value : Value)
  | call (number : Nat) (subscription : Subscription) (previous current : Table Value)
  | subscribe (listener : Callback)
  | unsubscribe (subscription : Subscription)

/-- What happens, in order. -/
abbrev Journal := List Act

namespace Act

/-- The state after an act.  A call changes nothing by itself; what the listener does are acts of
its own. -/
def apply (s : ErrorState) : Act → ErrorState
  | .update _ name value => s.record name value
  | .call .. => s
  | .subscribe listener => (s.subscribe listener).2
  | .unsubscribe subscription => s.unsubscribe subscription

/-- What is told by a call, and to a function of which role. -/
def notice? : Act → Option (Role × Table Value × Table Value)
  | .call _ s previous current => some (s.listener.role, previous, current)
  | _ => none

/-- The subscription that is called for the update of a number, and the table from before it. -/
def callFor? (number : Nat) : Act → Option (Subscription × Table Value)
  | .call n s previous _ => if n = number then some (s, previous) else none
  | _ => none

/-- The value that is recorded for a name. -/
def valueFor? (name : Value) : Act → Option Value
  | .update _ n value => if n.same name then some value else none
  | _ => none

end Act

/-- The state after a journal. -/
def replay (s : ErrorState) (j : Journal) : ErrorState := j.foldl Act.apply s

/-- What is told by the calls of a journal. -/
def noticesOf (j : Journal) : List (Role × Table Value × Table Value) := j.filterMap Act.notice?

/-- The calls for the update of a number. -/
def callsFor (number : Nat) (j : Journal) : List (Subscription × Table Value) :=
  j.filterMap (Act.callFor? number)

/-- The value that the last update of a name has recorded. -/
def lastValue? (name : Value) (j : Journal) : Option Value :=
  j.reverse.findSome? (Act.valueFor? name)

/-- An act that may happen in a state, if `later` happens after it. -/
def Act.Fits (s : ErrorState) (later : Journal) : Act → Prop
  | .update number name _ =>
      number = s.updates ∧ name.isKey = true ∧
        callsFor number later = s.listeners.map fun l => (l, s.table)
  | .call number _ _ current => number < s.updates ∧ current = s.table
  | .subscribe _ | .unsubscribe _ => True

/-- A journal of updates that call their listeners, beginning in a state. -/
def Proper : ErrorState → Journal → Prop
  | _, [] => True
  | s, a :: later => a.Fits s later ∧ Proper (a.apply s) later

variable {s : ErrorState} {a : Act} {j j' before later : Journal} {number : Nat}
  {previous current : Table Value}

@[simp] theorem replay_nil (s : ErrorState) : s.replay [] = s := rfl

@[simp] theorem replay_cons (s : ErrorState) (a : Act) (j : Journal) :
    s.replay (a :: j) = (a.apply s).replay j := rfl

theorem replay_append (s : ErrorState) (j j' : Journal) :
    s.replay (j ++ j') = (s.replay j).replay j' :=
  List.foldl_append

@[simp] theorem noticesOf_append (j j' : Journal) :
    noticesOf (j ++ j') = noticesOf j ++ noticesOf j' :=
  List.filterMap_append

@[simp] theorem callsFor_append (number : Nat) (j j' : Journal) :
    callsFor number (j ++ j') = callsFor number j ++ callsFor number j' :=
  List.filterMap_append

@[simp] theorem callsFor_update (m number : Nat) (name value : Value) (j : Journal) :
    callsFor m (.update number name value :: j) = callsFor m j := rfl

theorem callsFor_call (m number : Nat) (l : Subscription) (previous current : Table Value)
    (j : Journal) :
    callsFor m (.call number l previous current :: j) =
      if number = m then (l, previous) :: callsFor m j else callsFor m j := by
  by_cases h : number = m <;> simp [callsFor, Act.callFor?, h]

theorem mem_callsFor {l : Subscription} (h : .call number l previous current ∈ j) :
    (l, previous) ∈ callsFor number j :=
  List.mem_filterMap.mpr ⟨_, h, if_pos rfl⟩

theorem updates_le_replay (s : ErrorState) (j : Journal) : s.updates ≤ (s.replay j).updates := by
  induction j generalizing s with
  | nil => exact Nat.le_refl _
  | cons a rest ih =>
      have first : s.updates ≤ (a.apply s).updates := by
        cases a with
        | update => exact Nat.le_succ _
        | call | subscribe | unsubscribe => exact Nat.le_refl _
      exact first.trans (ih _)

/-! ## Proper journals -/

/-- Journals can be put one after the other if the later one makes no calls for updates of the
earlier one. -/
theorem Proper.append (h : Proper s j) (h' : Proper (s.replay j) j')
    (apart : ∀ m, s.updates ≤ m → m < (s.replay j).updates → callsFor m j' = []) :
    Proper s (j ++ j') := by
  induction j generalizing s with
  | nil => exact h'
  | cons a rest ih =>
      obtain ⟨fits, proper⟩ := h
      cases a with
      | update number name value =>
          obtain ⟨rfl, key, calls⟩ := fits
          have none : callsFor s.updates j' = [] :=
            apart _ (Nat.le_refl _) (updates_le_replay (s.record name value) rest)
          refine ⟨⟨rfl, key, ?_⟩, ih proper h' fun m hm => apart m (Nat.le_of_succ_le hm)⟩
          show callsFor s.updates (rest ++ j') = _
          rw [callsFor_append, none, List.append_nil, calls]
      | call => exact ⟨fits, ih proper h' apart⟩
      | subscribe | unsubscribe => exact ⟨trivial, ih proper h' apart⟩

/-- Each act of a proper journal fits where it stands. -/
theorem Proper.fits (h : Proper s (before ++ a :: later)) : a.Fits (s.replay before) later := by
  induction before generalizing s with
  | nil => exact h.1
  | cons first rest ih => exact ih h.2

/-- There are no calls for an update before it. -/
theorem Proper.callsFor_eq_nil (h : Proper s (before ++ later))
    (unused : (s.replay before).updates ≤ number) : callsFor number before = [] := by
  induction before generalizing s with
  | nil => rfl
  | cons a rest ih =>
      obtain ⟨fits, proper⟩ := h
      have none : callsFor number rest = [] := ih proper unused
      cases a with
      | call n l previous current =>
          have used : n < number := fits.1.trans_le ((updates_le_replay s rest).trans unused)
          rw [callsFor_call, if_neg used.ne, none]
      | update | subscribe | unsubscribe => exact none

/-- Every number that has been used up is that of an update. -/
theorem Proper.exists_update (h : Proper s (before ++ later)) (from_start : s.updates ≤ number)
    (used : number < (s.replay before).updates) :
    ∃ earlier name value since, before = earlier ++ .update number name value :: since := by
  induction before generalizing s with
  | nil => exact absurd used (Nat.not_lt_of_le from_start)
  | cons a rest ih =>
      obtain ⟨fits, proper⟩ := h
      by_cases first : (a.apply s).updates ≤ number
      · obtain ⟨earlier, name, value, since, rfl⟩ := ih proper first used
        exact ⟨a :: earlier, name, value, since, rfl⟩
      · cases a with
        | update n name value =>
            obtain rfl : n = s.updates := fits.1
            obtain rfl : s.updates = number :=
              Nat.le_antisymm from_start (Nat.le_of_lt_succ (Nat.lt_of_not_le first))
            exact ⟨[], name, value, rest, rfl⟩
        | call | subscribe | unsubscribe => exact absurd from_start first

/-- A call in a proper journal that makes calls for its own updates only comes after its update, and
is one of those that the update makes. -/
theorem Proper.call (h : Proper s j) (own : ∀ m < s.updates, callsFor m j = []) {l : Subscription}
    (split : j = before ++ .call number l previous current :: later) :
    current = (s.replay before).table ∧
      ∃ earlier name value since, before = earlier ++ .update number name value :: since ∧
        name.isKey = true ∧ l ∈ (s.replay earlier).listeners ∧
        previous = (s.replay earlier).table := by
  obtain ⟨used, now⟩ := (split ▸ h).fits
  have from_start : s.updates ≤ number := by
    refine Nat.le_of_not_lt fun foreign => ?_
    have made : .call number l previous current ∈ j := by simp [split]
    have counted := mem_callsFor made
    rw [own number foreign] at counted
    cases counted
  obtain ⟨earlier, name, value, since, rfl⟩ := (split ▸ h).exists_update from_start used
  rw [List.append_assoc, List.cons_append] at split
  obtain ⟨-, key, calls⟩ := (split ▸ h).fits
  have made : .call number l previous current ∈ since ++ .call number l previous current :: later :=
    List.mem_append_right _ List.mem_cons_self
  obtain ⟨l', live, same⟩ := List.mem_map.mp (calls ▸ mem_callsFor made)
  obtain ⟨rfl, rfl⟩ := Prod.mk.inj same
  exact ⟨now, earlier, name, value, since, rfl, key, live, rfl⟩

/-! ## The table after a journal -/

/-- What is found after an update. -/
theorem find?_record {name : Value} (hname : name.isKey = true) (value key : Value) :
    (s.record name value).table.find? key =
      if name.same key then some value else s.table.find? key := by
  show (s.table.put name value).find? key = _
  split
  · rename_i same
    rw [← Table.find?_congr hname same, Table.find?_put_self]
  · rename_i apart
    exact Table.find?_put_of_not_same hname (by simpa using apart) _ _

theorem lastValue?_cons (name : Value) (a : Act) (j : Journal) :
    lastValue? name (a :: j) = (lastValue? name j).or (a.valueFor? name) := by
  simp [lastValue?, List.findSome?_append]

theorem Proper.isKey (h : Proper s j) {name value : Value}
    (made : .update number name value ∈ j) : name.isKey = true := by
  obtain ⟨before, later, rfl⟩ := List.append_of_mem made
  exact h.fits.2.1

/-- The entry of a name is what its last update has recorded; names without an update keep what they
had. -/
theorem find?_replay (hj : ∀ number name value, .update number name value ∈ j → name.isKey = true)
    (key : Value) : (s.replay j).table.find? key = (lastValue? key j).or (s.table.find? key) := by
  induction j generalizing s with
  | nil => rfl
  | cons a rest ih =>
      have later := ih (s := a.apply s) fun _ _ _ h => hj _ _ _ (List.mem_cons_of_mem _ h)
      rw [replay_cons, later, lastValue?_cons, Option.or_assoc]
      congr 1
      cases a with
      | update number name value =>
          show (s.record name value).table.find? key = _
          rw [find?_record (hj _ _ _ List.mem_cons_self)]
          simp only [Act.valueFor?]
          split <;> rfl
      | call | subscribe | unsubscribe => rfl

/-- Without updates the table stays as it is. -/
theorem table_replay_of_no_update (still : ∀ number name value, .update number name value ∉ j) :
    (s.replay j).table = s.table := by
  induction j generalizing s with
  | nil => rfl
  | cons a rest ih =>
      have later := ih (s := a.apply s) fun _ _ _ h => still _ _ _ (List.mem_cons_of_mem _ h)
      rw [replay_cons, later]
      cases a with
      | update => exact absurd List.mem_cons_self (still _ _ _)
      | call | subscribe | unsubscribe => rfl

/-! ## Subscriptions -/

/-- The subscriptions are in the order of their tickets, which are all used up. -/
structure Ordered (s : ErrorState) : Prop where
  used : ∀ l ∈ s.listeners, l.ticket < s.tickets
  ascending : s.listeners.Pairwise fun l l' => l.ticket < l'.ticket

theorem Ordered.apply (h : s.Ordered) (a : Act) : (a.apply s).Ordered := by
  cases a with
  | update | call => exact ⟨h.used, h.ascending⟩
  | subscribe listener =>
      refine ⟨fun l hl => ?_, List.pairwise_append.mpr ⟨h.ascending, List.pairwise_singleton .., ?_⟩⟩
      · rcases List.mem_append.mp hl with old | new
        · exact Nat.lt_succ_of_lt (h.used l old)
        · obtain rfl := List.mem_singleton.mp new
          exact Nat.lt_succ_self _
      · intro l hl l' new
        obtain rfl := List.mem_singleton.mp new
        exact h.used l hl
  | unsubscribe subscription =>
      exact ⟨fun l hl => h.used l (List.mem_of_mem_eraseP hl),
        h.ascending.sublist List.eraseP_sublist⟩

theorem Ordered.replay (h : s.Ordered) (j : Journal) : (s.replay j).Ordered := by
  induction j generalizing s with
  | nil => exact h
  | cons a rest ih => exact ih (h.apply a)

theorem ordered_empty : empty.Ordered := ⟨nofun, .nil⟩

end ErrorState

open ErrorState

/-! ## Journals of operations -/

/-- What is told by the report that a listener is called, and to a function of which role. -/
def Event.notice? : Event → Option (Role × Table Value × Table Value)
  | .call role (.change (.map previous) (.map current)) => some (role, previous, current)
  | _ => none

theorem Event.notice?_of_not_isNotice {e : Event} (h : ¬ e.IsNotice) : e.notice? = none := by
  cases e with
  | call role args =>
      cases args with
      | change => exact absurd trivial h
      | _ => rfl
  | rule | log => rfl

namespace World

/-- What the reports tell that listeners are called, in order. -/
def notices (w : World) : List (Role × Table Value × Table Value) :=
  w.trace.reverse.filterMap Event.notice?

/-- The journal of what has happened from one world to another: it leads to the errors and listeners
that are there in the end, and the calls in it are those that have been reported. -/
structure Tells (w : World) (j : Journal) (w' : World) : Prop where
  errors : w'.form.errors = w.form.errors.replay j
  notices : w'.notices = w.notices ++ ErrorState.noticesOf j
  proper : w.form.errors.Proper j

/-- A journal with no calls for updates from before it. -/
structure Journaled (w : World) (j : Journal) (w' : World) : Prop extends Tells w j w' where
  own : ∀ m < w.form.errors.updates, callsFor m j = []

/-- There is such a journal. -/
def HasJournal (w w' : World) : Prop := ∃ j, w.Journaled j w'

variable {w w₁ w' : World} {j j' : Journal}

theorem notices_noted (w : World) (e : Event) :
    (w.noted e).notices = w.notices ++ e.notice?.toList := by
  simp only [notices, noted, List.reverse_cons, List.filterMap_append]
  cases h : e.notice? <;> simp [h]

theorem Tells.updates_le (h : w.Tells j w') : w.form.errors.updates ≤ w'.form.errors.updates :=
  h.errors ▸ updates_le_replay _ j

theorem Tells.trans (h : w.Tells j w₁) (h' : w₁.Tells j' w')
    (apart : ∀ m, w.form.errors.updates ≤ m → m < w₁.form.errors.updates → callsFor m j' = []) :
    w.Tells (j ++ j') w' where
  errors := by rw [h'.errors, h.errors, replay_append]
  notices := by rw [h'.notices, h.notices, noticesOf_append, List.append_assoc]
  proper := h.proper.append (h.errors ▸ h'.proper) fun m hm hm' => apart m hm (h.errors ▸ hm')

theorem Journaled.trans (h : w.Journaled j w₁) (h' : w₁.Journaled j' w') :
    w.Journaled (j ++ j') w' :=
  { h.toTells.trans h'.toTells fun m _ => h'.own m with
    own := fun m hm => by
      rw [callsFor_append, h.own m hm, h'.own m (hm.trans_le h.updates_le), List.append_nil] }

/-- Nothing has happened. -/
theorem Journaled.nothing (errors : w'.form.errors = w.form.errors)
    (notices : w'.notices = w.notices) : w.Journaled [] w' where
  errors := errors
  notices := by rw [notices, ErrorState.noticesOf, List.filterMap_nil, List.append_nil]
  proper := trivial
  own _ _ := rfl

/-- A subscription has begun or ended. -/
theorem Journaled.single {a : Act} (errors : w'.form.errors = a.apply w.form.errors)
    (notices : w'.notices = w.notices) (fits : a.Fits w.form.errors [])
    (silent : a.notice? = none) (calls : ∀ m, a.callFor? m = none) : w.Journaled [a] w' where
  errors := errors
  notices := by rw [notices, ErrorState.noticesOf, List.filterMap_cons, silent]; simp
  proper := ⟨fits, trivial⟩
  own m _ := by rw [callsFor, List.filterMap_cons, calls]; rfl

theorem hasJournal_reporting : Reporting HasJournal where
  refl _ := ⟨[], .nothing rfl rfl⟩
  trans := fun ⟨_, h⟩ ⟨_, h'⟩ => ⟨_, h.trans h'⟩
  noted w e he := ⟨[], .nothing rfl (by
    rw [notices_noted, Event.notice?_of_not_isNotice he, Option.toList_none, List.append_nil])⟩

end World

/-- Functions of the client that keep a journal: a listener gives a result, and does what it does
after the report that it is called. -/
structure Caller.KeepsJournal (call : Caller) : Prop where
  calls : ∀ f args, ¬ args.IsChange → Keeps World.HasJournal (call f args)
  listeners : ∀ f previous current w, ∃ result w',
    (call f (.change previous current)).runIn w = (.ok result, w') ∧
      (w.noted (.call f.role (.change previous current))).HasJournal w'

namespace Form

variable {call : Caller}

/-- Notifying subscriptions calls each of them once, in order, with the table of its moment; what
they do meanwhile is between these calls. -/
theorem notify_tells (hcall : call.KeepsJournal) {number : Nat} (previous : Table Value)
    (subscriptions : List Subscription) {w : World} (hnumber : number < w.form.errors.updates) :
    ∃ j w', (notify call previous subscriptions).runIn w = (.ok (), w') ∧ w.Tells j w' ∧
      callsFor number j = subscriptions.map (fun l => (l, previous)) ∧
      ∀ m < w.form.errors.updates, m ≠ number → callsFor m j = [] := by
  induction subscriptions generalizing w with
  | nil => exact ⟨[], w, rfl, (World.Journaled.nothing rfl rfl).toTells, rfl, fun _ _ _ => rfl⟩
  | cons l rest ih =>
      obtain ⟨_, w₁, called, j₁, told⟩ :=
        hcall.listeners l.listener (.map previous) (.map w.form.errors.table) w
      have first : w.Tells (.call number l previous w.form.errors.table :: j₁) w₁ := by
        refine ⟨told.errors, ?_, ⟨hnumber, rfl⟩, told.proper⟩
        rw [told.notices, World.notices_noted, List.append_assoc]
        rfl
      obtain ⟨j₂, w', notified, later, calls, others⟩ := ih (hnumber.trans_le told.updates_le)
      refine ⟨.call number l previous w.form.errors.table :: j₁ ++ j₂, w', ?_, ?_, ?_, ?_⟩
      · rw [notify, runIn_bind_ok (runIn_form w), runIn_bind_ok called, notified]
      · exact first.trans later fun m hm hm' => others m hm' (hnumber.trans_le hm).ne'
      · rw [callsFor_append, callsFor_call, if_pos rfl, told.own number hnumber, calls]
        rfl
      · intro m hm apart
        rw [callsFor_append, callsFor_call, if_neg (Ne.symm apart), told.own m hm,
          others m (hm.trans_le told.updates_le) apart, List.append_nil]

/-- An update gives the value that it has recorded, and its journal begins with it. -/
theorem setError_journaled (hcall : call.KeepsJournal) {name detail stored : Value} {isError : Bool}
    (hname : name.isKey = true) (said : errorValue isError detail = .ok stored) (w : World) :
    ∃ j w', (setError call name isError detail).runIn w = (.ok stored, w') ∧
      w.Journaled (.update w.form.errors.updates name stored :: j) w' := by
  obtain ⟨j, w', notified, told, calls, others⟩ :=
    notify_tells hcall w.form.errors.table w.form.errors.listeners
      (w := w.recording name stored) (Nat.lt_succ_self w.form.errors.updates)
  refine ⟨j, w', ?_, ⟨told.errors, told.notices, ⟨rfl, hname, calls⟩, told.proper⟩, ?_⟩
  · rw [runIn_setError hname said, runIn_map, notified]
    rfl
  · intro m hm
    rw [callsFor_update]
    exact others m (Nat.lt_succ_of_lt hm) hm.ne

theorem setError_hasJournal (hcall : call.KeepsJournal) (name : Value) (isError : Bool)
    (detail : Value) : Keeps World.HasJournal (setError call name isError detail) := by
  intro w
  by_cases hname : name.isKey = true
  · cases said : errorValue isError detail with
    | error f =>
        rw [runIn_setError_of_error said]
        exact World.hasJournal_reporting.refl w
    | ok stored =>
        obtain ⟨_, w', ran, told⟩ := setError_journaled hcall hname said w
        rw [ran]
        exact ⟨_, told⟩
  · obtain ⟨f, ran⟩ := runIn_setError_of_not_isKey hname isError detail w
    rw [ran]
    exact World.hasJournal_reporting.refl w

/-- Validation keeps a journal if the functions of the client do. -/
theorem bears_hasJournal (hcall : call.KeepsJournal) :
    Bears call (fun _ => True) World.HasJournal :=
  { World.hasJournal_reporting with
    calls := fun f args _ => hcall.calls f args
    records := fun name isError detail _ => setError_hasJournal hcall name isError detail }

end Form

end FormRules
