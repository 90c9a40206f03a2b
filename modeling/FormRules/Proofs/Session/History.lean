/-
# Histories of sessions — whatever is requested, errors accumulate

A session opens a form and makes requests, and the functions that the client has handed over make
requests while they run; they may fail at any point, and so may the requests.  As long as no request
records an error by itself,

    opening     begins a sound history                                 (`sound_begun`)
    requests    carry a sound history on, at every depth of nesting    (`perform_advances`)

and so every state that the form is ever in accumulates what the states before it have recorded
(`states_accumulate`), also the states in the middle of a pass that a function breaks off.
-/
import FormRules.Proofs.Form.History
import FormRules.Proofs.Session.Requests

namespace FormRules

open FormM World

theorem World.advances_listening : Listening Advances where
  refl := advances_chained.refl
  trans := advances_chained.trans
  noted _ _ _ := advances_of_same rfl rfl rfl
  aside form past snapshots _ := advances_of_same form past snapshots
  changing _ _ errors _ := advances_changing (congrArg ErrorState.table errors)
  subscribing _ _ := advances_changing rfl
  unsubscribing _ _ := advances_changing rfl

/-- A check looks at names that are known, and a pass at the present ones, so both carry a history
on if the functions of the client do. -/
theorem Caller.validates_advances {call : Caller} (hcall : ∀ f args, Keeps Advances (call f args)) :
    call.Validates Advances := by
  have calls (P : Value → Prop) (f : Callback) (args : Arguments) (_ : ¬ args.IsOutcome) :
      Keeps (AdvancesFor P) (call f args) := fun w _ => hcall f args w
  refine ⟨fun f args _ => hcall f args, fun w fields name context held sound => ?_, fun context w => ?_⟩
  · have known (name : Value) (registered : fields.hasName name = .ok true) : w.Knows name := by
      rcases held with rfl | ⟨id, held⟩
      · exact knows_of_hasName registered
      · exact sound.snapshots _ held name registered
    exact Form.validateIn_keeps (advancesFor_frame w.Knows) (calls _) fields known name context w
      (fun _ h => h) sound
  · exact Form.validateAll_keeps (advancesFor_frame w.Knows) (calls _) context
      (fun _ registered => knows_of_hasName registered) fun _ h => h

namespace Session

theorem advances_snapped (w : World) (id : String) : w.Advances (w.snapped id) := by
  intro sound
  refine ⟨⟨sound.accumulates, sound.follows, fun s hs name registered => ?_⟩,
    List.suffix_refl _⟩
  rcases List.mem_cons.mp hs with rfl | hs
  · exact knows_of_hasName registered
  · exact sound.snapshots s hs name registered

theorem step_advances (call : Caller) (hcall : ∀ f args, Keeps Advances (call f args))
    (r : Request) (hr : r.LeavesErrors) : Keeps Advances (step call r) :=
  step_keeps advances_listening (Caller.validates_advances hcall) advances_snapped
    (fun _ _ same w => advances_changing (congrArg ErrorState.table (same w.form)))
    fun records => absurd hr records

variable {behaviour : Behaviour}

/-- A request carries a history on, however deeply the calls that it leads to are nested. -/
theorem perform_advances (hmakes : behaviour.Makes Request.LeavesErrors) (depth : Nat) (r : Request)
    (hr : r.LeavesErrors) : Keeps Advances (perform behaviour depth r) :=
  perform_keeps advances_listening.toAside (fun _ _ => advances_of_same rfl rfl rfl) hmakes
    step_advances depth r hr

/-! ## Whole sessions -/

/-- The world in which a form has been opened, or as far as that has come. -/
def begun (opening : Opening) (registries : Registries) : World :=
  ((Session.open opening).runIn (Session.world registries)).2

/-- The world after requests have been carried out, one after the other. -/
def after (behaviour : Behaviour) (w : World) (requests : List Request) : World :=
  requests.foldl (fun w r => ((perform behaviour nestingLimit r).runIn w).2) w

theorem after_append (w : World) (requests later : List Request) :
    after behaviour w (requests ++ later) = after behaviour (after behaviour w requests) later :=
  List.foldl_append

theorem after_advances (hmakes : behaviour.Makes Request.LeavesErrors) {requests : List Request}
    (hrequests : ∀ r ∈ requests, r.LeavesErrors) (w : World) :
    w.Advances (after behaviour w requests) := by
  induction requests generalizing w with
  | nil => exact advances_chained.refl w
  | cons r rest ih =>
      obtain ⟨hr, hrest⟩ := List.forall_mem_cons.mp hrequests
      exact advances_chained.trans (perform_advances hmakes nestingLimit r hr w) (ih hrest _)

/-- The history is sound, and the client has taken no snapshots, so it may begin anew. -/
def IsBeginning (w : World) : Prop := w.held.snapshots = [] ∧ w.Sound

theorem beginning_tolerant : Tolerant fun w w' => IsBeginning w → IsBeginning w' where
  refl _ := id
  trans first later := later ∘ first
  noted _ _ _ h := ⟨h.1, (advances_listening.noted _ _ ‹_› h.2).1⟩
  aside form past snapshots _ h :=
    ⟨snapshots.trans h.1, (advances_of_same form past snapshots h.2).1⟩
  changing _ _ errors _ h :=
    ⟨h.1, (advances_changing (congrArg ErrorState.table errors) h.2).1⟩

/-- Opening a form begins a sound history. -/
theorem sound_begun (opening : Opening) (registries : Registries) :
    (begun opening registries).Sound := by
  have anew (o : FormOptions) :
      Keeps (fun w w' => IsBeginning w → IsBeginning w') (start (Form.ofOptions o)) :=
    fun _ h => ⟨h.1, .of_alone rfl rfl h.1⟩
  have before : IsBeginning (Session.world registries) := ⟨rfl, .of_alone rfl rfl rfl⟩
  exact (open_keeps beginning_tolerant anew opening _ before).2

/-- **Errors accumulate**, whatever the client does that is no recording of its own: in every state
that the form is in, the names with an entry are or were registered, each entry is `false`, `true`
or a message, and no entry that was there in an earlier state is gone. -/
theorem states_accumulate (hmakes : behaviour.Makes Request.LeavesErrors) (opening : Opening)
    (registries : Registries) (requests later : List Request)
    (hrequests : ∀ r ∈ requests ++ later, r.LeavesErrors) :
    (after behaviour (begun opening registries) requests).states <:+
        (after behaviour (begun opening registries) (requests ++ later)).states ∧
      ∀ f earlier,
        f :: earlier <:+ (after behaviour (begun opening registries) (requests ++ later)).states →
          f.Accumulates earlier := by
  obtain ⟨hearly, hlate⟩ := List.forall_mem_append.mp hrequests
  obtain ⟨sound, -⟩ := after_advances hmakes hearly _ (sound_begun opening registries)
  obtain ⟨sound, longer⟩ := after_advances hmakes hlate _ sound
  rw [after_append]
  exact ⟨longer, sound.accumulates⟩

/-- A function that registers the field `b`, validates and unregisters it, and then fails. -/
def rash : Behaviour := fun _ _ _ =>
  .request (.register "b" (some { (default : FieldSource) with name := .str "b" })) fun _ =>
    .request (.validateField (.str "b")) fun _ =>
      .request (.unregister (.held "b")) fun _ => .fail .typeMismatch

/-- The field `a` is registered, with a validator that is rash. -/
def registerRash : List Request :=
  [.register "a" (some { (default : FieldSource) with name := .str "a", validator := .script 0 })]

/-- The world in which a form with that field has been validated. -/
def rashWorld : World :=
  after rash (begun (.options [(.accept, .script 0)]) .builtin) (registerRash ++ [.validate])

/-- What is recorded in a pass that is broken off stays, and the name with the entry was registered
only while the validator ran. -/
theorem rash_accumulates :
    rashWorld.form.errors.table.keys = [.str "b"] ∧ rashWorld.form.fields.keys = [.str "a"] ∧
      rashWorld.form.Accumulates rashWorld.past := by
  have made : rash.Makes Request.LeavesErrors :=
    fun _ _ _ => ⟨trivial, fun _ => ⟨trivial, fun _ => ⟨trivial, fun _ => trivial⟩⟩⟩
  obtain ⟨-, accumulate⟩ :=
    states_accumulate made (.options [(.accept, .script 0)]) .builtin registerRash [.validate]
      (by simp [registerRash, Request.LeavesErrors])
  exact ⟨rfl, rfl, accumulate _ _ (List.suffix_refl _)⟩

end Session

end FormRules
