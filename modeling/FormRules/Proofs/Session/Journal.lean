/-
# Journals of sessions — every update reaches the listeners of its moment

A client records errors by itself and through validation, and its listeners do so while they are
called, subscribe others and end subscriptions.  As long as no listener fails,

    requests     keep a journal, at every depth of nesting     (`perform_hasJournal`)
    sessions     have a journal from their beginning           (`exists_journal`)

and everything that is said of updates and calls is read off the journal of a session:

    `updates_reach_listeners`     no update is lost, and each calls the subscriptions that were live
                                  when it was made, in order, once each
    `calls_tell_tables`           each call is handed the table from before its update, and the table
                                  of the moment of the call

The table of that moment is the one that the update has made, unless listeners that were called
before have recorded something since.  Then it tells their updates as well.
-/
import FormRules.Proofs.Form.Journal
import FormRules.Proofs.Session.Client
import FormRules.Proofs.Session.History

namespace FormRules

open FormM World ErrorState

theorem World.hasJournal_listening : Listening HasJournal where
  refl := hasJournal_reporting.refl
  trans := hasJournal_reporting.trans
  noted := hasJournal_reporting.noted
  aside form _ _ trace :=
    ⟨[], .nothing (congrArg Form.errors form) (by rw [notices, trace, notices])⟩
  changing _ _ errors _ := ⟨[], .nothing errors rfl⟩
  subscribing _ listener := ⟨[.subscribe listener], .single rfl rfl trivial rfl fun _ => rfl⟩
  unsubscribing _ s := ⟨[.unsubscribe s], .single rfl rfl trivial rfl fun _ => rfl⟩

theorem Caller.KeepsJournal.validates {call : Caller} (hcall : call.KeepsJournal) :
    call.Validates HasJournal where
  calls := hcall.calls
  checks w fields name context _ :=
    (Form.bears_hasJournal hcall).validateIn fields (fun _ _ => trivial) name context w
  passes context _ := (Form.bears_hasJournal hcall).validateAll context fun _ _ => trivial

namespace Session

/-! ## Requests -/

/-- The scripts of listeners answer, whatever the replies. -/
def Behaviour.ListenersAnswer (behaviour : Behaviour) : Prop :=
  ∀ script n previous current, (behaviour script n (.change previous current)).Answers

theorem Script.makes_anything (script : Script) : script.Makes fun _ => True := by
  induction script with
  | answer | fail => exact trivial
  | request r next ih => exact ⟨trivial, ih⟩

/-- The world after requests, with at most `depth` levels of nested calls. -/
def reached (behaviour : Behaviour) (depth : Nat) (w : World) (requests : List Request) : World :=
  requests.foldl (fun w r => ((perform behaviour depth r).runIn w).2) w

/-- No error has been recorded, and no listener has been subscribed or called. -/
def IsFresh (w : World) : Prop := w.form.errors = .empty ∧ w.notices = []

section Requests

variable {behaviour : Behaviour} (hlisteners : behaviour.ListenersAnswer)

include hlisteners

/-- Functions keep a journal if the requests that they make do. -/
theorem callWith_keepsJournal {perform : Request → FormM Reply}
    (h : ∀ r, Keeps HasJournal (perform r)) : (callWith behaviour perform).KeepsJournal where
  calls f _ hargs :=
    callWith_keeps hasJournal_listening.toAside (fun _ _ _ => Script.makes_anything _)
      (fun r _ => h r) f fun w => hasJournal_reporting.noted w _ hargs
  listeners f previous current w := by
    let reported := (w.countCall f).noted (.call f.role (.change previous current))
    let script := behaviour f.script (reported.callsOf f) (.change previous current)
    obtain ⟨result, w', ran⟩ : ∃ result w',
        (runScript perform script).runIn reported = (.ok result, w') :=
      runScript_completes (hlisteners f.script _ previous current) reported
    have kept : reported.HasJournal w' := by
      have kept := runScript_keeps hasJournal_listening.toChained (fun r _ => h r)
        (Script.makes_anything script) reported
      rwa [ran] at kept
    -- Counting the call is not noticed by anyone.
    have counted : (w.noted (.call f.role (.change previous current))).HasJournal reported :=
      hasJournal_listening.aside rfl rfl rfl rfl
    exact ⟨result, w', ran, hasJournal_listening.trans counted kept⟩

/-- A request keeps a journal, however deeply the calls that it leads to are nested. -/
theorem perform_hasJournal (depth : Nat) (r : Request) :
    Keeps HasJournal (perform behaviour depth r) := by
  induction depth generalizing r with
  | zero => exact hasJournal_listening.toChained.throw _
  | succ depth ih =>
      have hcall := callWith_keepsJournal hlisteners ih
      exact step_keeps hasJournal_listening hcall.validates
        (fun _ _ => ⟨[], .nothing rfl rfl⟩)
        (fun _ _ same w => ⟨[], .nothing (same w.form) rfl⟩)
        fun _ name isError detail => Form.setError_hasJournal hcall name isError detail

theorem reached_hasJournal (depth : Nat) (requests : List Request) (w : World) :
    w.HasJournal (reached behaviour depth w requests) := by
  induction requests generalizing w with
  | nil => exact hasJournal_listening.refl w
  | cons r rest ih =>
      exact hasJournal_listening.trans (perform_hasJournal hlisteners depth r w) (ih _)

end Requests

/-! ## Whole sessions -/

/-- Opening a form records and notifies nothing. -/
theorem isFresh_begun (opening : Opening) (registries : Registries) :
    IsFresh (begun opening registries) := by
  have tolerant : Tolerant fun w w' => IsFresh w → IsFresh w' :=
    { refl := fun _ => id
      trans := fun first later => later ∘ first
      noted := fun w e he fresh => ⟨fresh.1, by
        rw [notices_noted, Event.notice?_of_not_isNotice he, fresh.2]; rfl⟩
      aside := fun form _ _ trace fresh =>
        ⟨(congrArg Form.errors form).trans fresh.1, by rw [notices, trace]; exact fresh.2⟩
      changing := fun _ _ errors _ fresh => ⟨errors.trans fresh.1, fresh.2⟩ }
  have anew (o : FormOptions) :
      Keeps (fun w w' => IsFresh w → IsFresh w') (start (Form.ofOptions o)) := by
    intro w fresh
    have silent : ((start (Form.ofOptions o)).runIn w).2.trace = w.trace := by
      simp only [start, runIn_modify]
    exact ⟨rfl, by rw [notices, silent]; exact fresh.2⟩
  have before : IsFresh (Session.world registries) := ⟨rfl, rfl⟩
  exact open_keeps tolerant anew opening _ before

variable {behaviour : Behaviour}

/-- A session has a journal that begins without errors and listeners. -/
theorem exists_journal (hlisteners : behaviour.ListenersAnswer) (opening : Opening)
    (registries : Registries) (depth : Nat) (requests : List Request) :
    ∃ j, (reached behaviour depth (begun opening registries) requests).form.errors =
        ErrorState.empty.replay j ∧
      (reached behaviour depth (begun opening registries) requests).notices =
        ErrorState.noticesOf j ∧
      ErrorState.empty.Proper j := by
  obtain ⟨errors, silent⟩ := isFresh_begun opening registries
  obtain ⟨j, told⟩ := reached_hasJournal hlisteners depth requests (begun opening registries)
  refine ⟨j, errors ▸ told.errors, ?_, errors ▸ told.proper⟩
  rw [told.notices, silent, List.nil_append]

/-- **No update is lost, and none misses a listener**, however deeply updates are nested in listeners
that subscribe others and end subscriptions.  In the end there is for each name what its last update
has recorded, and nothing for names without one.  An update calls the subscriptions that were live
when it was made, in order, once each, and gives the value that it has recorded.  A detail that
cannot be written makes no update: recording it fails, changes nothing and calls no listener. -/
theorem updates_reach_listeners (hlisteners : behaviour.ListenersAnswer) (opening : Opening)
    (registries : Registries) (depth : Nat) (requests : List Request) :
    (∃ j, (reached behaviour depth (begun opening registries) requests).form.errors =
        ErrorState.empty.replay j ∧
      (reached behaviour depth (begun opening registries) requests).notices = noticesOf j ∧
      (∀ name, (reached behaviour depth (begun opening registries) requests).form.errors.table.find?
        name = lastValue? name j) ∧
      ∀ before number name value later, j = before ++ .update number name value :: later →
        (ErrorState.empty.replay before).listeners.Pairwise (fun l l' => l.ticket < l'.ticket) ∧
        callsFor number before = [] ∧
        callsFor number later = (ErrorState.empty.replay before).listeners.map fun l =>
          (l, (ErrorState.empty.replay before).table)) ∧
    ∀ w name isError detail, name.isKey = true →
      match Form.errorValue isError detail with
      | .ok stored => ∃ j w',
          (Form.setError (callWith behaviour (perform behaviour depth)) name isError detail).runIn w =
            (.ok stored, w') ∧
          w.Journaled (.update w.form.errors.updates name stored :: j) w'
      | .error f => f = .longInteger ∧ isError = true ∧ detail.IsMute ∧
          (Form.setError (callWith behaviour (perform behaviour depth)) name isError detail).runIn w =
            (.error f, w) := by
  constructor
  · obtain ⟨j, errors, notices, proper⟩ :=
      exists_journal hlisteners opening registries depth requests
    refine ⟨j, errors, notices, fun name => ?_, ?_⟩
    · rw [errors, find?_replay fun _ _ _ made => proper.isKey made]
      exact Option.or_none
    · rintro before number name value later rfl
      obtain ⟨rfl, -, calls⟩ := proper.fits
      exact ⟨(ordered_empty.replay before).ascending, proper.callsFor_eq_nil (Nat.le_refl _), calls⟩
  · intro w name isError detail hname
    cases said : Form.errorValue isError detail with
    | ok stored =>
        exact Form.setError_journaled
          (callWith_keepsJournal hlisteners (perform_hasJournal hlisteners depth)) hname said w
    | error f =>
        obtain ⟨rfl, error, mute⟩ := Form.errorValue_eq_error_iff.mp said
        exact ⟨rfl, error, mute, Form.runIn_setError_of_error said w⟩

/-- When it is called first, the listener of script 0 records an error for `b`, subscribes another
listener, and ends the subscription of the second. -/
def interfering : Behaviour := fun script n _ =>
  if script = 0 ∧ n = 1 then
    .request (.setError (.str "b") (.bool true) .null) fun _ =>
      .request (.subscribe "z" 1) fun _ =>
        .request (.unsubscribe "y" 0) fun _ => .answer .null
  else .answer .null

theorem interfering_listenersAnswer : interfering.ListenersAnswer := by
  intro script n previous current
  unfold interfering
  split
  · exact fun _ _ _ => trivial
  · exact trivial

/-- Two listeners, the first of which interferes, and then an error for `a`. -/
def interference : List Request :=
  [.subscribe "x" 0, .subscribe "y" 1, .setError (.str "a") (.bool true) .null]

/-- The world after that. -/
def interfered : World :=
  reached interfering nestingLimit (begun (.options [(.accept, .script 2)]) .builtin) interference

/-- The tables after the first update and after both. -/
def firstTable : Table Value := [(.str "a", .bool true)]

@[inherit_doc firstTable]
def secondTable : Table Value := [(.str "a", .bool true), (.str "b", .bool true)]

theorem notices_interfered : interfered.notices =
    [(.listener (.str "x"), [], firstTable),
      (.listener (.str "x"), firstTable, secondTable),
      (.listener (.str "y"), firstTable, secondTable),
      (.listener (.str "y"), [], secondTable)] :=
  rfl

/-- Both updates are there in the end.  The second listener gets to know of both, although its
subscription has ended when it is called for the outer one, and the third listener of neither. -/
theorem interfered_reaches :
    ∃ j, noticesOf j = interfered.notices ∧
      (∀ told ∈ noticesOf j, told.1 ≠ .listener (.str "z")) ∧
      (∀ name, interfered.form.errors.table.find? name = lastValue? name j) ∧
      lastValue? (.str "a") j = some (.bool true) ∧ lastValue? (.str "b") j = some (.bool true) := by
  obtain ⟨⟨j, -, notices, found, -⟩, -⟩ :=
    updates_reach_listeners interfering_listenersAnswer (.options [(.accept, .script 2)]) .builtin
      nestingLimit interference
  have told : noticesOf j = _ := notices.symm.trans notices_interfered
  exact ⟨j, notices.symm, by simp [told], found, (found _).symm, (found _).symm⟩

/-- **What a listener is told.**  A call for an update is handed the table from right before the
update, and the table of the moment of the call: that is the one from right after the update, with
what has been recorded since.  So the two may differ in more than the updated name, and do if a
listener that was called earlier has changed what is recorded for another one. -/
theorem calls_tell_tables (hlisteners : behaviour.ListenersAnswer) (opening : Opening)
    (registries : Registries) (depth : Nat) (requests : List Request) :
    ∃ j, (reached behaviour depth (begun opening registries) requests).form.errors =
        ErrorState.empty.replay j ∧
      (reached behaviour depth (begun opening registries) requests).notices = noticesOf j ∧
      ∀ before number l previous current later,
        j = before ++ .call number l previous current :: later →
        ∃ earlier name value since, before = earlier ++ .update number name value :: since ∧
          name.isKey = true ∧ l ∈ (ErrorState.empty.replay earlier).listeners ∧
          previous = (ErrorState.empty.replay earlier).table ∧
          current = (ErrorState.empty.replay before).table ∧
          ((∀ n key v, .update n key v ∉ since) → current = previous.put name value) ∧
          (∀ key, current.find? key = (lastValue? key since).or
            (if name.same key then some value else previous.find? key)) ∧
          ((∀ key, name.same key = false → current.find? key = previous.find? key) ↔
            ∀ key v, name.same key = false → lastValue? key since = some v →
              previous.find? key = some v) := by
  obtain ⟨j, errors, notices, proper⟩ :=
    exists_journal hlisteners opening registries depth requests
  refine ⟨j, errors, notices, fun before number l previous current later split => ?_⟩
  obtain ⟨rfl, earlier, name, value, since, rfl, hname, live, rfl⟩ :=
    proper.call (fun _ hm => absurd hm (Nat.not_lt_zero _)) split
  have keys (n : Nat) (key v : Value) (made : .update n key v ∈ since) : key.isKey = true := by
    have among : .update n key v ∈ j := by simp [split, made]
    exact proper.isKey among
  have replayed : (ErrorState.empty.replay (earlier ++ .update number name value :: since)).table =
      (((ErrorState.empty.replay earlier).record name value).replay since).table := by
    rw [replay_append, replay_cons]
    rfl
  have found (key : Value) := find?_replay (s := (ErrorState.empty.replay earlier).record name value)
    keys key
  simp only [← replayed, find?_record hname] at found
  refine ⟨earlier, name, value, since, rfl, hname, live, rfl, rfl, fun still => ?_, found, ?_⟩
  · rw [replayed, table_replay_of_no_update still]
    rfl
  · refine forall_congr' fun key => ?_
    rw [found key]
    cases last : lastValue? key since with
    | none => simp +contextual
    | some v =>
        constructor
        · rintro agree v' apart ⟨⟩
          exact (agree apart).symm
        · intro kept apart
          exact (kept v apart rfl).symm

/-- The call that tells the second listener of the outer update hands it both errors.  Whichever name
was updated, the two tables differ in the other one. -/
theorem interfered_tells :
    ∃ j before number l later earlier name value since,
      noticesOf j = interfered.notices ∧
      j = before ++ .call number l [] secondTable :: later ∧
      before = earlier ++ .update number name value :: since ∧
      ¬ ∀ key, name.same key = false → Table.find? secondTable key = Table.find? [] key := by
  obtain ⟨j, -, notices, tells⟩ :=
    calls_tell_tables interfering_listenersAnswer (.options [(.accept, .script 2)]) .builtin
      nestingLimit interference
  have told : noticesOf j = _ := notices.symm.trans notices_interfered
  have outer : (Role.listener (.str "y"), [], secondTable) ∈ noticesOf j := by simp [told]
  obtain ⟨a, ha, call⟩ := List.mem_filterMap.mp outer
  cases a with
  | call number l previous current =>
      obtain ⟨-, rfl, rfl⟩ : l.listener.role = .listener (.str "y") ∧ previous = [] ∧
        current = secondTable := by simpa [Act.notice?] using call
      obtain ⟨before, later, split⟩ := List.append_of_mem ha
      obtain ⟨earlier, name, value, since, made, hname, -⟩ := tells _ _ _ _ _ _ split
      refine ⟨j, before, number, l, later, earlier, name, value, since, notices.symm, split, made,
        fun agree => ?_⟩
      -- No name is the same as both of `a` and `b`, so the tables differ in another one.
      have same (key : Value) (recorded : Table.find? secondTable key ≠ none) :
          name.same key = true := by
        by_contra apart
        exact recorded (agree key (by simpa using apart))
      have a := Table.same_of_same hname (same (.str "a") (by decide)) (.str "b")
      have b := Table.same_of_same hname (same (.str "b") (by decide)) (.str "b")
      rw [a] at b
      revert b
      decide
  | update | subscribe | unsubscribe => cases call

end Session

end FormRules
