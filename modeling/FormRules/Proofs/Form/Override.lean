/-
# Overrides of a pass — what becomes of the answer

A form with an override of whole passes asks it once and takes over its answer, for the names that
were registered when the pass began.  Whatever the override has done by then, and whatever is
recorded, this is the effect on the table of errors:

    answer                  a name of the pass            any other key     names that fail
    `true`                  `false`                       stays             none
    a mapping without it    `false`                       stays             the keys of the mapping,
    a mapping with it       the detail that it is given   stays             in order
    anything else           stays                         stays             none

The answer is taken over in two loops, one over the names and one over the mapping.  Each is a list
of records (`cleared`, `reported`), made one after the other (`Writes`).  A detail that cannot be
written ends the second loop: it is not recorded, what comes behind it in the mapping is not either,
and the pass fails (`TakenOver.unwritten`).  A listener that fails ends the pass as well; the
records made by then are the first ones of these.  `blamed_unrecorded` shows a run of either kind.
No check is asked in any case.
-/
import FormRules.Proofs.Form.Validity
import FormRules.Proofs.Value.Keys
import FormRules.Proofs.Value.Text

namespace FormRules

open FormM

/-! ## Checks and listeners -/

/-- The call of a validator, or of an override for one field. -/
def Arguments.IsCheck : Arguments → Prop
  | .field .. | .value .. => True
  | _ => False

/-- The report that a field is checked: by a rule, a validator or an override. -/
def Event.IsCheck : Event → Prop
  | .rule _ => True
  | .call _ args => args.IsCheck
  | .log .. => False

/-- No field has been checked in between. -/
def World.ChecksNothing (w w' : World) : Prop :=
  ∃ events, w'.trace = events ++ w.trace ∧ ∀ e ∈ events, ¬ e.IsCheck

namespace World.ChecksNothing

variable {w w' w'' : World}

theorem of_trace (h : w'.trace = w.trace) : w.ChecksNothing w' := ⟨[], h, nofun⟩

theorem noted (w : World) {e : Event} (h : ¬ e.IsCheck) : w.ChecksNothing (w.noted e) :=
  ⟨[e], rfl, List.forall_mem_singleton.mpr h⟩

theorem trans : w.ChecksNothing w' → w'.ChecksNothing w'' → w.ChecksNothing w'' := by
  rintro ⟨events, first, quiet⟩ ⟨events', later, quiet'⟩
  exact ⟨events' ++ events, by rw [later, first, List.append_assoc],
    List.forall_mem_append.mpr ⟨quiet', quiet⟩⟩

end World.ChecksNothing

/-- Listeners leave the form alone and check nothing. -/
structure Caller.ListensOnly (call : Caller) : Prop where
  form : ∀ f previous current w,
    ((call f (.change previous current)).runIn w).2.form = w.form
  checksNothing : ∀ f previous current (w : World),
    w.ChecksNothing ((call f (.change previous current)).runIn w).2

/-- Some call of a listener fails. -/
def Caller.ListenerFails (call : Caller) (f : Failure) : Prop :=
  ∃ listener previous current w w',
    (call listener (.change previous current)).runIn w = (.error f, w')

/-! ## Records one after the other -/

/-- The form with more records. -/
def Form.recordingAll (f : Form) (es : Table Value) : Form :=
  { f with errors := es.foldl (fun s e => s.record e.1 e.2) f.errors }

/-- Whatever world it is run in, the operation makes records one after the other, checks nothing and
ends with the outcome, unless a listener fails on the way. -/
def Writes {α : Type} (call : Caller) (es : Table Value) (m : FormM α) (o : Outcome α) : Prop :=
  ∀ w, ∃ outcome w', m.runIn w = (outcome, w') ∧ w.ChecksNothing w' ∧
    (outcome = o ∧ w'.form = w.form.recordingAll es ∨
      ∃ f before, outcome = .error f ∧ call.ListenerFails f ∧ before <+: es ∧
        w'.form = w.form.recordingAll before)

namespace Writes

variable {α β : Type} {call : Caller} {es es' : Table Value} {m : FormM α} {g : α → FormM β}
  {a : α} {o : Outcome β}

theorem pure (a : α) : Writes call [] (pure a) (.ok a) :=
  fun w => ⟨.ok a, w, rfl, .of_trace rfl, .inl ⟨rfl, rfl⟩⟩

theorem log (level : Level) (message : String) : Writes call [] (FormM.log level message) (.ok ()) :=
  fun w => ⟨.ok (), _, rfl, .noted w id, .inl ⟨rfl, rfl⟩⟩

theorem bind (first : Writes call es m (.ok a)) (later : Writes call es' (g a) o) :
    Writes call (es ++ es') (m >>= g) o := by
  intro w
  obtain ⟨outcome, w₁, ran, quiet, ⟨rfl, form⟩ | ⟨f, before, rfl, fails, prior, form⟩⟩ := first w
  · obtain ⟨outcome, w₂, ran', quiet', ended⟩ := later w₁
    refine ⟨outcome, w₂, (runIn_bind_ok ran).trans ran', quiet.trans quiet', ?_⟩
    have both (more : Table Value) :
        w₁.form.recordingAll more = w.form.recordingAll (es ++ more) := by
      simp [form, Form.recordingAll, List.foldl_append]
    rcases ended with ⟨rfl, form'⟩ | ⟨f, before, rfl, fails, prior, form'⟩
    · exact .inl ⟨rfl, form'.trans (both es')⟩
    · exact .inr ⟨f, es ++ before, rfl, fails, (List.prefix_append_right_inj es).mpr prior,
        form'.trans (both before)⟩
  · exact ⟨.error f, w₁, runIn_bind_error ran, quiet,
      .inr ⟨f, before, rfl, fails, prior.trans (List.prefix_append es es'), form⟩⟩

/-- A failure ends a sequence of steps. -/
theorem bind_error {e : Failure} (first : Writes call es m (.error e)) (g : α → FormM β) :
    Writes call es (m >>= g) (.error e) := by
  intro w
  obtain ⟨outcome, w₁, ran, quiet, ⟨rfl, form⟩ | ⟨f, before, rfl, fails, prior, form⟩⟩ := first w
  · exact ⟨.error e, w₁, runIn_bind_error ran, quiet, .inl ⟨rfl, form⟩⟩
  · exact ⟨.error f, w₁, runIn_bind_error ran, quiet, .inr ⟨f, before, rfl, fails, prior, form⟩⟩

end Writes

namespace Form

variable {call : Caller} (listens : call.ListensOnly)

include listens

theorem notify_writes (previous : Table Value) (subscriptions : List Subscription) :
    Writes call [] (notify call previous subscriptions) (.ok ()) := by
  induction subscriptions with
  | nil => exact .pure ()
  | cons s rest ih =>
      intro w
      have step : (notify call previous (s :: rest)).runIn w =
          (call s.listener (.change (.map previous) (.map w.form.errors.table)) >>=
            fun _ => notify call previous rest).runIn w := rfl
      rw [step]
      have form := listens.form s.listener (.map previous) (.map w.form.errors.table) w
      have quiet := listens.checksNothing s.listener (.map previous) (.map w.form.errors.table) w
      rcases heard : (call s.listener (.change (.map previous) (.map w.form.errors.table))).runIn w
        with ⟨f | v, w₁⟩
      · rw [heard] at form quiet
        exact ⟨.error f, w₁, runIn_bind_error heard, quiet,
          .inr ⟨f, [], rfl, ⟨_, _, _, w, w₁, heard⟩, List.prefix_rfl, form⟩⟩
      · rw [heard] at form quiet
        obtain ⟨outcome, w₂, ran, quiet', ended⟩ := ih w₁
        rw [show w₁.form = w.form from form] at ended
        exact ⟨outcome, w₂, (runIn_bind_ok heard).trans ran, quiet.trans quiet', ended⟩

theorem setError_writes {name detail stored : Value} {isError : Bool} (hname : name.isKey = true)
    (said : errorValue isError detail = .ok stored) :
    Writes call [(name, stored)] (setError call name isError detail) (.ok stored) := by
  intro w
  obtain ⟨outcome, w', ran, quiet, ended⟩ :=
    notify_writes listens w.form.errors.table w.form.errors.listeners (w.recording name stored)
  refine ⟨outcome.map fun _ => stored, w', ?_, ?_, ?_⟩
  · rw [runIn_setError hname said, runIn_map, ran]
  · exact .trans (.of_trace rfl) quiet
  · rcases ended with ⟨rfl, form⟩ | ⟨f, before, rfl, fails, prior, form⟩
    · exact .inl ⟨rfl, form⟩
    · -- The record is made before the listeners are called.
      obtain rfl := List.prefix_nil.mp prior
      exact .inr ⟨f, _, rfl, fails, List.prefix_rfl, form⟩

omit listens in
theorem setError_writes_of_error {name detail : Value} {isError : Bool} {f : Failure}
    (unsaid : errorValue isError detail = .error f) :
    Writes call [] (setError call name isError detail) (.error f) :=
  fun w => ⟨.error f, w, runIn_setError_of_error unsaid w, .of_trace rfl, .inl ⟨rfl, rfl⟩⟩

end Form

/-! ## The records of an answer -/

/-- The records for the names that a mapping does not mention. -/
def cleared (names : List Value) (failures : Table Value) : Table Value :=
  (names.filter fun name => !failures.contains name).map (·, .bool false)

/-- The records for the entries of a mapping that are about one of the names, up to the first detail
that cannot be written. -/
def reported (names : List Value) : Table Value → Table Value
  | [] => []
  | (name, detail) :: rest =>
      if names.any (·.same name) then
        match Form.errorValue true detail with
        | .ok stored => (name, stored) :: reported names rest
        | .error _ => []
      else reported names rest

section Reported

variable {names : List Value} {name detail stored : Value} {failures prior rest : Table Value}

theorem reported_of_said (registered : names.any (·.same name) = true)
    (said : Form.errorValue true detail = .ok stored) :
    reported names ((name, detail) :: rest) = (name, stored) :: reported names rest := by
  rw [reported, if_pos registered, said]

theorem reported_of_isMute (registered : names.any (·.same name) = true) (mute : detail.IsMute) :
    reported names ((name, detail) :: rest) = [] := by
  rw [reported, if_pos registered, Form.errorValue_of_isMute mute]

theorem reported_of_unknown (unknown : ¬ names.any (·.same name) = true) :
    reported names ((name, detail) :: rest) = reported names rest := by
  rw [reported, if_neg unknown]

/-- An entry of a mapping is recorded if it is about one of the names and no detail so far is mute;
behind a mute one nothing is. -/
theorem reported_cases (names : List Value) (name detail : Value) (rest : Table Value) :
    (names.any (·.same name) = true ∧ detail.IsMute ∧
      reported names ((name, detail) :: rest) = []) ∨
    (names.any (·.same name) = true ∧ ¬ detail.IsMute ∧ ∃ stored,
      Form.errorValue true detail = .ok stored ∧
      reported names ((name, detail) :: rest) = (name, stored) :: reported names rest) ∨
    (¬ names.any (·.same name) = true ∧
      reported names ((name, detail) :: rest) = reported names rest) := by
  by_cases registered : names.any (·.same name) = true
  · by_cases mute : detail.IsMute
    · exact .inl ⟨registered, mute, reported_of_isMute registered mute⟩
    · obtain ⟨stored, said⟩ : ∃ stored, Form.errorValue true detail = .ok stored :=
        Form.exists_errorValue fun _ => mute
      exact .inr (.inl ⟨registered, mute, stored, said, reported_of_said registered said⟩)
  · exact .inr (.inr ⟨registered, reported_of_unknown registered⟩)

/-- Nothing is recorded for keys that the mapping does not have, or that are not among the names. -/
theorem keys_reported_sublist (names : List Value) (failures : Table Value) :
    (reported names failures).keys.Sublist
      (failures.keys.filter fun key => names.any (·.same key)) := by
  induction failures with
  | nil => exact List.Sublist.refl []
  | cons e rest ih =>
      obtain ⟨name, detail⟩ := e
      have keys : Table.keys ((name, detail) :: rest) = name :: Table.keys rest := rfl
      rw [keys, List.filter_cons]
      rcases reported_cases names name detail rest with
        ⟨-, -, ended⟩ | ⟨registered, -, stored, -, goesOn⟩ | ⟨unknown, goesOn⟩
      · rw [ended]
        exact List.nil_sublist _
      · rw [goesOn, if_pos registered]
        exact ih.cons_cons name
      · rw [goesOn, if_neg unknown]
        exact ih

theorem distinct_reported (h : failures.Distinct) (names : List Value) :
    (reported names failures).Distinct :=
  List.Pairwise.sublist ((keys_reported_sublist names failures).trans List.filter_sublist) h

theorem find?_reported_of_unmentioned {key : Value} (h : failures.find? key = none) :
    Table.find? (reported names failures) key = none := by
  refine Table.find?_eq_none_iff.mpr fun k hk => ?_
  have mentioned := (keys_reported_sublist names failures).subset hk
  exact Table.find?_eq_none_iff.mp h k (List.mem_filter.mp mentioned).1

/-- Nothing behind a mute detail is recorded, nor is that. -/
theorem reported_append (written : ¬ Form.GivesMute names prior)
    (registered : names.any (·.same name) = true) (mute : detail.IsMute) :
    reported names (prior ++ (name, detail) :: rest) = reported names prior := by
  induction prior with
  | nil => exact reported_of_isMute registered mute
  | cons e prior ih =>
      obtain ⟨name', detail'⟩ := e
      obtain ⟨spoken, later⟩ := not_or.mp (mt Form.givesMute_cons_iff.mpr written)
      rw [List.cons_append]
      rcases reported_cases names name' detail' prior with
        ⟨registered', mute', -⟩ | ⟨registered', -, stored, said, goesOn⟩ | ⟨unknown, goesOn⟩
      · exact absurd ⟨registered', mute'⟩ spoken
      · rw [goesOn, reported_of_said registered' said, ih later]
      · rw [goesOn, reported_of_unknown unknown, ih later]

/-- Of details that cannot be written there is a first one. -/
theorem exists_first_mute (h : Form.GivesMute names failures) :
    ∃ prior name detail rest, failures = prior ++ (name, detail) :: rest ∧
      ¬ Form.GivesMute names prior ∧ names.any (·.same name) = true ∧ detail.IsMute := by
  induction failures with
  | nil => exact absurd h Form.not_givesMute_nil
  | cons e rest ih =>
      obtain ⟨name, detail⟩ := e
      by_cases here : names.any (·.same name) = true ∧ detail.IsMute
      · exact ⟨[], name, detail, rest, rfl, Form.not_givesMute_nil, here⟩
      · obtain ⟨prior, name', detail', rest', rfl, written, found⟩ :=
          ih ((Form.givesMute_cons_iff.mp h).resolve_left here)
        exact ⟨(name, detail) :: prior, name', detail', rest', rfl,
          fun mute => (Form.givesMute_cons_iff.mp mute).elim here written, found⟩

end Reported

section Records

variable {names : List Value} (hnames : ∀ name ∈ names, name.isKey = true)
  {failures : Table Value} {key : Value}

include hnames

theorem isKey_of_any {key : Value} (h : names.any (·.same key) = true) : key.isKey = true := by
  obtain ⟨name, hname, same⟩ := List.any_eq_true.mp h
  exact Value.isKey_of_same name key same (hnames name hname)

/-- A key is one of the names exactly if a key that is the same is one. -/
theorem any_same_congr {k : Value} (h : k.same key = true) :
    names.any (·.same k) = names.any (·.same key) := by
  by_cases hk : k.isKey = true
  · exact congrArg names.any (funext fun name => Table.same_of_same hk h name)
  · have hkey : ¬ key.isKey = true := fun hkey =>
      hk (Value.isKey_of_same key k (Value.same_comm hkey ▸ h) hkey)
    rw [Bool.eq_false_iff.mpr (mt (isKey_of_any hnames) hk),
      Bool.eq_false_iff.mpr (mt (isKey_of_any hnames) hkey)]

theorem find?_cleared (failures : Table Value) (key : Value) :
    Table.find? (cleared names failures) key =
      if names.any (·.same key) && !failures.contains key then some (.bool false) else none := by
  induction names with
  | nil => rfl
  | cons name rest ih =>
      obtain ⟨hname, hrest⟩ := List.forall_mem_cons.mp hnames
      have later := ih hrest
      unfold cleared at later ⊢
      rw [List.filter_cons, List.any_cons]
      by_cases here : name.same key = true
      · have mentioned : failures.contains name = failures.contains key := by
          rw [Table.contains, Table.contains, Table.find?_congr hname here]
        rw [mentioned]
        cases contained : failures.contains key with
        | false => simp [Table.find?, here]
        | true => simpa [contained] using later
      · rw [Bool.eq_false_iff.mpr here, Bool.false_or, ← later]
        split <;> simp [Table.find?, here]

theorem find?_reported_of_unknown (h : names.any (·.same key) = false) (failures : Table Value) :
    Table.find? (reported names failures) key = none := by
  refine Table.find?_eq_none_iff.mpr fun k hk => ?_
  have registered := (List.mem_filter.mp ((keys_reported_sublist names failures).subset hk)).2
  refine Bool.eq_false_iff.mpr fun same => ?_
  rw [any_same_congr hnames same, h] at registered
  cases registered

/-- Where all details can be written, they are recorded. -/
theorem find?_reported (written : ¬ Form.GivesMute names failures)
    (registered : names.any (·.same key) = true) {detail : Value}
    (found : failures.find? key = some detail) :
    ∃ stored, Form.errorValue true detail = .ok stored ∧
      Table.find? (reported names failures) key = some stored := by
  induction failures with
  | nil => cases found
  | cons e rest ih =>
      obtain ⟨k, d⟩ := e
      obtain ⟨spoken, later⟩ := not_or.mp (mt Form.givesMute_cons_iff.mpr written)
      rw [Table.find?] at found
      by_cases here : k.same key = true
      · rw [if_pos here] at found
        obtain rfl := Option.some.inj found
        have among : names.any (·.same k) = true := by rwa [any_same_congr hnames here]
        obtain ⟨stored, said⟩ : ∃ stored, Form.errorValue true d = .ok stored :=
          Form.exists_errorValue fun _ mute => spoken ⟨among, mute⟩
        refine ⟨stored, said, ?_⟩
        rw [reported_of_said among said, Table.find?, if_pos here]
      · rw [if_neg here] at found
        obtain ⟨stored, said, recorded⟩ := ih later found
        refine ⟨stored, said, ?_⟩
        rcases reported_cases names k d rest with
          ⟨among, mute, -⟩ | ⟨-, -, other, -, goesOn⟩ | ⟨-, goesOn⟩
        · exact absurd ⟨among, mute⟩ spoken
        · rw [goesOn, Table.find?, if_neg here, recorded]
        · rw [goesOn, recorded]

theorem isKey_cleared : ∀ e ∈ cleared names failures, e.1.isKey = true := by
  intro e he
  obtain ⟨name, hname, rfl⟩ := List.mem_map.mp he
  exact hnames name (List.mem_filter.mp hname).1

theorem isKey_reported : ∀ e ∈ reported names failures, e.1.isKey = true := by
  intro e he
  have mentioned := (keys_reported_sublist names failures).subset (List.mem_map_of_mem he)
  exact isKey_of_any hnames (List.mem_filter.mp mentioned).2

end Records

theorem distinct_cleared {names : List Value} (h : names.Pairwise fun a b => a.same b = false)
    (failures : Table Value) : (cleared names failures).Distinct := by
  have keys : (cleared names failures).keys =
      names.filter fun name => !failures.contains name := by
    rw [cleared, Table.keys, List.map_map]
    exact List.map_id _
  rw [Table.Distinct, keys]
  exact h.filter _

/-- The table of errors once an answer has been taken over. -/
def recorded (names : List Value) (failures before : Table Value) : Table Value :=
  (cleared names failures ++ reported names failures).foldl (fun t e => t.put e.1 e.2) before

section Recorded

variable {fields : FieldTable} {failures known : Table Value} {key detail : Value}

theorem isKey_of_mem_names : ∀ name ∈ fields.keys, name.isKey = true :=
  fun _ => FieldTable.isKey_of_mem_keys

theorem any_same_iff : fields.keys.any (·.same key) = true ↔ fields.hasName key = .ok true :=
  List.any_eq_true.trans FieldTable.hasName_iff.symm

theorem find?_recorded_of_unmentioned (registered : fields.hasName key = .ok true)
    (unmentioned : failures.find? key = none) (before : Table Value) :
    (recorded fields.keys failures before).find? key = some (.bool false) := by
  rw [recorded, List.foldl_append, Table.find?_foldl_put_of_absent (isKey_reported isKey_of_mem_names)
    (find?_reported_of_unmentioned unmentioned)]
  refine Table.find?_foldl_put (isKey_cleared isKey_of_mem_names)
    (distinct_cleared fields.distinct _) ?_ _
  rw [find?_cleared isKey_of_mem_names, any_same_iff.mpr registered, Table.contains, unmentioned]
  rfl

/-- The records are those for a part of the mapping without mute details, which may be all of it. -/
theorem find?_recorded_of_mentioned (written : ¬ Form.GivesMute fields.keys known)
    (same : reported fields.keys failures = reported fields.keys known)
    (distinct : failures.Distinct) (registered : fields.hasName key = .ok true)
    (found : known.find? key = some detail) (complete : detail.IsComplete) (before : Table Value) :
    (recorded fields.keys failures before).find? key = some detail.asError := by
  obtain ⟨stored, said, made⟩ :=
    find?_reported isKey_of_mem_names written (any_same_iff.mpr registered) found
  obtain rfl := Form.eq_asError_of_errorValue complete said
  rw [recorded, List.foldl_append]
  exact Table.find?_foldl_put (isKey_reported isKey_of_mem_names) (distinct_reported distinct _)
    (same ▸ made) _

/-- A name that is mentioned, but that no record is made for, keeps what is recorded. -/
theorem find?_recorded_of_unreached (mentioned : failures.contains key = true)
    (unreported : Table.find? (reported fields.keys failures) key = none) (before : Table Value) :
    (recorded fields.keys failures before).find? key = before.find? key := by
  have unclear : Table.find? (cleared fields.keys failures) key = none := by
    rw [find?_cleared isKey_of_mem_names, mentioned]
    simp
  rw [recorded, List.foldl_append,
    Table.find?_foldl_put_of_absent (isKey_reported isKey_of_mem_names) unreported,
    Table.find?_foldl_put_of_absent (isKey_cleared isKey_of_mem_names) unclear]

end Recorded

namespace Form

variable {call : Caller} (listens : call.ListensOnly) {names : List Value}
  (hnames : ∀ name ∈ names, name.isKey = true)

include listens hnames

theorem clearUnmentioned_writes (failures : Table Value) :
    Writes call (cleared names failures) (clearUnmentioned call failures names) (.ok ()) := by
  induction names with
  | nil => exact .pure ()
  | cons name rest ih =>
      obtain ⟨hname, hrest⟩ := List.forall_mem_cons.mp hnames
      have later := ih hrest
      unfold cleared at later ⊢
      unfold clearUnmentioned
      rw [List.filter_cons]
      cases failures.contains name with
      | true => exact later
      | false => exact .bind (setError_writes listens hname rfl) later

theorem recordFailures_writes (failures : Table Value) :
    Writes call (reported names failures) (recordFailures call names failures)
      (if GivesMute names failures then .error .longInteger else .ok ()) := by
  induction failures with
  | nil => exact .pure ()
  | cons e rest ih =>
      obtain ⟨name, detail⟩ := e
      rw [recordFailures_cons]
      rcases reported_cases names name detail rest with
        ⟨registered, mute, ended⟩ | ⟨registered, spoken, stored, said, goesOn⟩ | ⟨unknown, goesOn⟩
      · rw [ended, if_pos registered, if_pos (givesMute_cons_iff.mpr (.inl ⟨registered, mute⟩))]
        exact .bind_error (setError_writes_of_error (errorValue_of_isMute mute)) _
      · rw [goesOn, if_pos registered]
        simp only [givesMute_cons_iff, spoken, and_false, false_or]
        exact .bind (setError_writes listens (isKey_of_any hnames registered) said) ih
      · rw [goesOn, if_neg unknown]
        simp only [givesMute_cons_iff, eq_false unknown, false_and, false_or]
        exact .bind (.log _ _) ih

/-- An answer that mentions failures is taken over by two loops of records, the second of which goes
up to the first detail that cannot be written. -/
theorem applyResult_writes {result : Value} {failures : Table Value}
    (h : failuresOf? result = some failures) :
    Writes call (cleared names failures ++ reported names failures) (applyResult call names result)
      (if GivesMute names failures then .error .longInteger
        else .ok ⟨result.isTrue, failures.keys⟩) := by
  unfold applyResult
  rw [h]
  refine .bind (clearUnmentioned_writes listens hnames failures) ?_
  have recorded := recordFailures_writes listens hnames failures
  by_cases mute : GivesMute names failures
  · rw [if_pos mute] at recorded ⊢
    exact .bind_error recorded _
  · rw [if_neg mute] at recorded ⊢
    rw [← List.append_nil (reported names failures)]
    exact .bind recorded (.pure _)

end Form

/-- What the answer of an override leads to: the outcome of the pass, and what is recorded for the
names of the field table then. -/
inductive TakenOver (fields : FieldTable) (before after : Table Value) :
    Value → Outcome Verdict → Prop
  | affirmed (valid : ∀ key, fields.hasName key = .ok true → after.find? key = some (.bool false)) :
      TakenOver fields before after (.bool true) (.ok ⟨true, []⟩)
  | mentioned {answer : Value} {failures : Table Value} (opened : answer.opened = .map failures)
      (written : ¬ Form.GivesMute fields.keys failures)
      (valid : ∀ key, fields.hasName key = .ok true → failures.find? key = none →
        after.find? key = some (.bool false))
      (invalid : failures.Distinct → ∀ key detail, fields.hasName key = .ok true →
        failures.find? key = some detail → detail.IsComplete →
        after.find? key = some detail.asError) :
      TakenOver fields before after answer (.ok ⟨false, failures.keys⟩)
  /-- The detail of a name cannot be written: those in front of it in the mapping are recorded, and
  what is recorded for it and for those behind it stays. -/
  | unwritten {answer name detail : Value} {failures prior rest : Table Value}
      (opened : answer.opened = .map failures)
      (split : failures = prior ++ (name, detail) :: rest)
      (written : ¬ Form.GivesMute fields.keys prior)
      (registered : fields.hasName name = .ok true) (mute : detail.IsMute)
      (valid : ∀ key, fields.hasName key = .ok true → failures.find? key = none →
        after.find? key = some (.bool false))
      (invalid : failures.Distinct → ∀ key detail, fields.hasName key = .ok true →
        prior.find? key = some detail → detail.IsComplete →
        after.find? key = some detail.asError)
      (same : ∀ key, prior.find? key = none → failures.find? key ≠ none →
        after.find? key = before.find? key) :
      TakenOver fields before after answer (.error .longInteger)
  | refused {answer : Value} (noFlag : answer ≠ .bool true)
      (noMapping : ∀ failures, answer.opened ≠ .map failures) (same : after = before) :
      TakenOver fields before after answer (.ok ⟨false, []⟩)

namespace Form

variable {call : Caller} {w w₁ : World} {context : Value}

theorem table_recordingAll (f : Form) (es : Table Value) :
    (f.recordingAll es).errors.table = es.foldl (fun t e => t.put e.1 e.2) f.errors.table := by
  show (es.foldl (fun s e => s.record e.1 e.2) f.errors).table = _
  generalize f.errors = s
  induction es generalizing s with
  | nil => rfl
  | cons e rest ih => exact ih (s.record e.1 e.2)

/-- An answer that is taken over is `true` or a mapping. -/
theorem failuresOf?_cases {result : Value} {failures : Table Value}
    (h : failuresOf? result = some failures) :
    result = .bool true ∧ failures = [] ∨ result.isTrue = false ∧ result.opened = .map failures := by
  unfold failuresOf? at h
  split at h
  · exact .inl ⟨rfl, (Option.some.inj h).symm⟩
  · rename_i noFlag
    split at h
    · rename_i opened
      obtain rfl := Option.some.inj h
      exact .inr ⟨Bool.eq_false_iff.mpr (mt Value.isTrue_iff.mp noFlag), opened⟩
    · cases h

theorem noMapping_of_failuresOf? {result : Value} (h : failuresOf? result = none)
    (failures : Table Value) : result.opened ≠ .map failures := by
  intro opened
  unfold failuresOf? at h
  split at h
  · cases h
  · rw [opened] at h
    cases h

/-- The two loops of records are what the answer leads to. -/
theorem takenOver_recorded {fields : FieldTable} {result : Value} {failures : Table Value}
    (h : failuresOf? result = some failures) (before : Table Value) :
    TakenOver fields before (recorded fields.keys failures before) result
      (if GivesMute fields.keys failures then .error .longInteger
        else .ok ⟨result.isTrue, failures.keys⟩) := by
  have valid (key : Value) (registered : fields.hasName key = .ok true)
      (unmentioned : failures.find? key = none) :=
    find?_recorded_of_unmentioned registered unmentioned before
  by_cases mute : GivesMute fields.keys failures
  · rw [if_pos mute]
    obtain ⟨prior, name, detail, rest, split, written, among, silent⟩ := exists_first_mute mute
    have cut : reported fields.keys failures = reported fields.keys prior :=
      split ▸ reported_append written among silent
    have opened : result.opened = .map failures := by
      rcases failuresOf?_cases h with ⟨-, rfl⟩ | ⟨-, opened⟩
      · exact absurd mute not_givesMute_nil
      · exact opened
    refine .unwritten opened split written (any_same_iff.mp among) silent valid ?_ ?_
    · intro distinct key detail registered found complete
      exact find?_recorded_of_mentioned written cut distinct registered found complete before
    · intro key unreached mentioned
      exact find?_recorded_of_unreached (Option.isSome_iff_ne_none.mpr mentioned)
        (cut ▸ find?_reported_of_unmentioned unreached) before
  · rw [if_neg mute]
    rcases failuresOf?_cases h with ⟨rfl, rfl⟩ | ⟨noFlag, opened⟩
    · exact .affirmed fun key registered => valid key registered rfl
    · rw [noFlag]
      refine .mentioned opened mute valid ?_
      intro distinct key detail registered found complete
      exact find?_recorded_of_mentioned mute rfl distinct registered found complete before

/-- No record is made for a key that is not among the names. -/
theorem find?_records_of_prefix {names : List Value} (hnames : ∀ name ∈ names, name.isKey = true)
    {failures es : Table Value} (h : es <+: cleared names failures ++ reported names failures)
    {key : Value} (hkey : names.any (·.same key) = false) (before : Table Value) :
    (es.foldl (fun t e => t.put e.1 e.2) before).find? key = before.find? key := by
  have fromNames (e : Value × Value) (he : e ∈ es) :
      e ∈ cleared names failures ∨ e ∈ reported names failures :=
    List.mem_append.mp (h.subset he)
  refine Table.find?_foldl_put_of_absent (fun e he => ?_) (Table.find?_eq_none_iff.mpr ?_) before
  · exact (fromNames e he).elim (isKey_cleared hnames e) (isKey_reported hnames e)
  · intro k hk
    obtain ⟨e, he, rfl⟩ := List.mem_map.mp hk
    have inCleared := Table.find?_eq_none_iff.mp
      (show Table.find? (cleared names failures) key = none by simp [find?_cleared hnames, hkey])
    have inReported := Table.find?_eq_none_iff.mp
      (find?_reported_of_unknown hnames hkey failures)
    rcases fromNames e he with he | he
    · exact inCleared _ (List.mem_map_of_mem he)
    · exact inReported _ (List.mem_map_of_mem he)

/-- **The effect of an override of whole passes.**  It is asked once, and whatever it does then, no
field is checked afterwards, and what is recorded for keys stays that were not registered when the
pass began.  If it fails, so does the pass.  If it answers, its answer is taken over, or a listener
fails.  A detail that has no text cannot be taken over: it ends the pass, with what is recorded by
then. -/
theorem validateAll_override (listens : call.ListensOnly)
    (hover : w.form.wholeOverride.isCallable = true) {answer : Outcome Value}
    (asked : (callHook call w.form.wholeOverride (.form context)).runIn w = (answer, w₁)) :
    ∃ outcome w', (validateAll call context).runIn w = (outcome, w') ∧ w₁.ChecksNothing w' ∧
      (∀ key, w.form.fields.hasName key ≠ .ok true →
        w'.form.errors.table.find? key = w₁.form.errors.table.find? key) ∧
      match answer with
      | .error f => outcome = .error f ∧ w' = w₁
      | .ok result => (∃ f, outcome = .error f ∧ call.ListenerFails f) ∨
          TakenOver w.form.fields w₁.form.errors.table w'.form.errors.table result outcome := by
  have hnames : ∀ name ∈ w.form.fields.keys, name.isKey = true := isKey_of_mem_names
  have began : (validateAll call context).runIn w =
      (callHook call w.form.wholeOverride (.form context) >>=
        applyResult call w.form.fields.keys).runIn w := by
    rw [validateAll, runIn_bind_ok (runIn_form w), if_pos hover]
  rw [began]
  cases answer with
  | error f => exact ⟨.error f, w₁, runIn_bind_error asked, .of_trace rfl, fun _ _ => rfl, rfl, rfl⟩
  | ok result =>
      rw [runIn_bind_ok asked]
      cases taken : failuresOf? result with
      | none =>
          refine ⟨.ok ⟨false, []⟩, _, by unfold applyResult; rw [taken]; rfl, .noted w₁ id,
            fun _ _ => rfl, .inr (.refused ?_ (noMapping_of_failuresOf? taken) rfl)⟩
          rintro rfl
          cases taken
      | some failures =>
          obtain ⟨outcome, w', ran, quiet, ended⟩ := applyResult_writes listens hnames taken w₁
          refine ⟨outcome, w', ran, quiet, fun key hkey => ?_, ?_⟩
          · have apart : w.form.fields.keys.any (·.same key) = false :=
              Bool.eq_false_iff.mpr (mt any_same_iff.mp hkey)
            rcases ended with ⟨-, form⟩ | ⟨f, before, -, -, prior, form⟩
            · rw [form, table_recordingAll]
              exact find?_records_of_prefix hnames List.prefix_rfl apart _
            · rw [form, table_recordingAll]
              exact find?_records_of_prefix hnames prior apart _
          · rcases ended with ⟨rfl, form⟩ | ⟨f, before, rfl, fails, -, -⟩
            · rw [form, table_recordingAll]
              exact .inr (takenOver_recorded taken _)
            · exact .inl ⟨f, rfl, fails⟩

/-! ## An override that blames a field and takes another one away -/

/-- An override that unregisters the first field and blames the second one, and a name that no field
has. -/
def overruling : Caller := fun _ args =>
  match args with
  | .form _ => do
      unregisterField 0
      return .map [(.str "b", .int 3), (.str "ghost", .str "?")]
  | _ => return .null

theorem overruling_listensOnly : overruling.ListensOnly where
  form _ _ _ _ := rfl
  checksNothing _ _ _ _ := .of_trace rfl

/-- A form with two fields, the first of them twice, and with errors for the first one and for a
name that no field has any more. -/
def overruled : World :=
  ((do
    addField 0
    addField 1
    addField 0
    let _ ← setError .idle (.str "a") true .null
    let _ ← setError .idle (.str "old") true (.str "Stale.")).runIn
    { World.initial ⟨.empty "standard", .empty "file"⟩
        (ofOptions { FormOptions.default with validateAll := .function ⟨.validateAll, 0, 0⟩ }) with
      objects := ["a", "b"].map fun name => { (default : Field) with name := .str name } }).2

/-- The field that is taken away still counts as one of the pass, and what is recorded for names
that were not registered stays. -/
theorem validateAll_overruled :
    overruling.ListensOnly ∧ overruled.form.wholeOverride.isCallable = true ∧
      ∃ w', (validateAll overruling (.map [])).runIn overruled =
          (.ok ⟨false, [.str "b", .str "ghost"]⟩, w') ∧
        w'.form.fields.hasName (.str "a") = .ok false ∧
        w'.form.errors.table.find? (.str "a") = some (.bool false) ∧
        w'.form.errors.table.find? (.str "b") = some (.str "3") ∧
        w'.form.errors.table.find? (.str "old") = some (.str "Stale.") ∧
        w'.form.errors.table.find? (.str "ghost") = none := by
  have hover : overruled.form.wholeOverride.isCallable = true := rfl
  have asked : (callHook overruling overruled.form.wholeOverride (.form (.map []))).runIn overruled =
      (.ok (.map [(.str "b", .int 3), (.str "ghost", .str "?")]),
        ((unregisterField 0).runIn overruled).2) := rfl
  obtain ⟨outcome, w', ran, -, stays, taken⟩ :=
    validateAll_override overruling_listensOnly hover asked
  rcases taken with ⟨f, -, _, _, _, _, _, fails⟩ | taken
  · cases fails
  · cases taken with
    | refused _ noMapping _ => exact absurd rfl (noMapping _)
    | @unwritten _ name detail _ prior rest opened split _ _ mute =>
        cases opened
        have given : (name, detail) ∈ [(.str "b", .int 3), (.str "ghost", .str "?")] := by
          rw [split]
          exact List.mem_append_right prior List.mem_cons_self
        rcases List.mem_pair.mp given with here | here
        · exact absurd ((Prod.mk.inj here).2 ▸ mute) (by decide +kernel)
        · exact absurd ((Prod.mk.inj here).2 ▸ mute) (by decide)
    | mentioned opened _ valid invalid =>
        cases opened
        refine ⟨overruling_listensOnly, hover, w', ran, ?_, valid _ rfl rfl, ?_, ?_, ?_⟩
        · have gone : ((validateAll overruling (.map [])).runIn
              overruled).2.form.fields.buckets.contains (.str "a") = false := by decide +kernel
          rw [ran] at gone
          exact congrArg Except.ok gone
        · have distinct : Table.Distinct
              ([(.str "b", .int 3), (.str "ghost", .str "?")] : Table Value) := by
            simp [Table.Distinct, Table.keys, Value.same]
          exact invalid distinct (.str "b") (.int 3) rfl rfl trivial
        · exact stays _ fun registered => by cases registered
        · exact stays _ fun registered => by cases registered

/-- An override that blames `b`, in front of listeners that fail. -/
def blaming (detail : Value) : Caller := fun _ args =>
  match args with
  | .form _ => return .map [(.str "b", detail)]
  | .change _ _ => throw (.raised .value "Not now.")
  | _ => return .null

theorem blaming_listensOnly (detail : Value) : (blaming detail).ListensOnly where
  form _ _ _ _ := rfl
  checksNothing _ _ _ _ := .of_trace rfl

/-- The same form with a listener. -/
def overheard : World :=
  overruled.changing fun f =>
    { f with errors := (f.errors.subscribe ⟨.listener (.str "l"), 0, 0⟩).2 }

/-- Only that `a` has no error is recorded if the detail for `b` cannot be written. -/
theorem runIn_validateAll_blaming {detail : Value} (mute : detail.IsMute) :
    (validateAll (blaming detail) (.map [])).runIn overruled =
      (.error .longInteger, overruled.changing fun f =>
        { f with errors := f.errors.record (.str "a") (.bool false) }) := by
  have taken : (validateAll (blaming detail) (.map [])).runIn overruled =
      ((setError (blaming detail) (.str "b") true detail >>= fun _ => pure ()) >>=
        fun _ => pure ⟨false, [.str "b"]⟩).runIn (overruled.changing fun f =>
          { f with errors := f.errors.record (.str "a") (.bool false) }) := rfl
  rw [taken]
  exact runIn_bind_error (runIn_bind_error
    (runIn_setError_of_error (errorValue_of_isMute mute) _))

/-- A name that is registered and blamed may stay without an error, and the pass without an outcome:
if a listener fails, and if the detail cannot be written. -/
theorem blamed_unrecorded :
    (∃ w', (blaming (.str "Taken.")).ListensOnly ∧
      overheard.form.fields.hasName (.str "b") = .ok true ∧
      (validateAll (blaming (.str "Taken.")) (.map [])).runIn overheard =
        (.error (.raised .value "Not now."), w') ∧
      w'.form.errors.table.find? (.str "b") = none) ∧
    ∃ w', (blaming (.int (Nat.pow 10 Value.digitLimit))).ListensOnly ∧
      overruled.form.errors.listeners = [] ∧
      overruled.form.fields.hasName (.str "b") = .ok true ∧
      (validateAll (blaming (.int (Nat.pow 10 Value.digitLimit))) (.map [])).runIn overruled =
        (.error .longInteger, w') ∧
      w'.form.errors.table.find? (.str "b") = none := by
  have mute : (Value.int (Nat.pow 10 Value.digitLimit)).IsMute := by decide +kernel
  exact ⟨⟨_, blaming_listensOnly _, rfl, rfl, rfl⟩,
    _, blaming_listensOnly _, rfl, rfl, runIn_validateAll_blaming mute, rfl⟩

end Form

end FormRules
