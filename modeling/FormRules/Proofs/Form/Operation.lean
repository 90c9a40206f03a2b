/-
# Operations — what a step does, and what a whole operation keeps

An operation on the world is run by `FormM.runIn`, which gives its outcome and the world it leaves.
This module says once how `runIn` passes through the steps that operations are made of, and gives
three properties that pass through sequences, so that later modules never unfold the monad:

    Keeps R m        every run of `m` leaves a world that `R` relates to the first, also on failure
    Completes m      every run of `m` gives a result
    CallsOnly P m    `m`, which is handed a caller, uses it on arguments of `P` only

The functions of the client are not known here: a caller stands for all of them, and may do
anything to the world.  `CallsOnly` is therefore said by comparing callers: two that agree on `P`
make the operation do the same.
-/
import FormRules.Form.State

namespace FormRules

namespace FormM

variable {α β : Type}

/-! ## Runs of single steps -/

theorem runIn_bind (m : FormM α) (f : α → FormM β) (w : World) :
    (m >>= f).runIn w = match m.runIn w with
      | (.ok a, w') => (f a).runIn w'
      | (.error e, w') => (.error e, w') := by
  simp only [runIn, ExceptT.run_bind, StateT.run_bind]
  show (match m.run.run w with | (o, w') => _) = _
  rcases m.run.run w with ⟨_ | _, _⟩ <;> rfl

theorem runIn_bind_ok {m : FormM α} {f : α → FormM β} {w w' : World} {a : α}
    (h : m.runIn w = (.ok a, w')) : (m >>= f).runIn w = (f a).runIn w' := by
  rw [runIn_bind, h]

theorem runIn_bind_error {m : FormM α} {f : α → FormM β} {w w' : World} {e : Failure}
    (h : m.runIn w = (.error e, w')) : (m >>= f).runIn w = (.error e, w') := by
  rw [runIn_bind, h]

/-- An operation that gives a result goes through its first step. -/
theorem exists_of_runIn_bind {m : FormM α} {f : α → FormM β} {w w' : World} {b : β}
    (h : (m >>= f).runIn w = (.ok b, w')) :
    ∃ a w₁, m.runIn w = (.ok a, w₁) ∧ (f a).runIn w₁ = (.ok b, w') := by
  rw [runIn_bind] at h
  rcases ran : m.runIn w with ⟨e | a, w₁⟩
  · rw [ran] at h
    cases h
  · rw [ran] at h
    exact ⟨a, w₁, rfl, h⟩

theorem runIn_map (g : α → β) (m : FormM α) (w : World) :
    (g <$> m).runIn w = ((m.runIn w).1.map g, (m.runIn w).2) := by
  rw [map_eq_pure_bind, runIn_bind]
  rcases m.runIn w with ⟨_ | _, _⟩ <;> rfl

@[simp] theorem runIn_pure (a : α) (w : World) : (pure a : FormM α).runIn w = (.ok a, w) := rfl

@[simp] theorem runIn_throw (f : Failure) (w : World) :
    (throw f : FormM α).runIn w = (.error f, w) := rfl

@[simp] theorem runIn_lift (o : Outcome α) (w : World) : (lift o).runIn w = (o, w) := rfl

@[simp] theorem runIn_get (w : World) : (get : FormM World).runIn w = (.ok w, w) := rfl

@[simp] theorem runIn_set (w' w : World) : (set w' : FormM Unit).runIn w = (.ok (), w') := rfl

@[simp] theorem runIn_modify (g : World → World) (w : World) :
    (modify g : FormM Unit).runIn w = (.ok (), g w) := rfl

@[simp] theorem runIn_emit (e : Event) (w : World) : (emit e).runIn w = (.ok (), w.noted e) := rfl

@[simp] theorem runIn_log (level : Level) (message : String) (w : World) :
    (log level message).runIn w = (.ok (), w.noted (.log level message)) := rfl

@[simp] theorem runIn_form (w : World) : form.runIn w = (.ok w.form, w) := rfl

@[simp] theorem runIn_field (id : FieldId) (w : World) :
    (field id).runIn w = (.ok (w.field id), w) := rfl

@[simp] theorem runIn_setField (id : FieldId) (f : Field) (w : World) :
    (setField id f).runIn w = (.ok (), w.setField id f) := rfl

@[simp] theorem runIn_modifyForm (g : Form → Form) (w : World) :
    (modifyForm g).runIn w = (.ok (), w.changing g) := rfl

end FormM

/-! ## Reports -/

namespace World

/-- Only reports have been added. -/
def Reports (w w' : World) : Prop := ∃ events, w' = { w with trace := events ++ w.trace }

theorem Reports.refl (w : World) : w.Reports w := ⟨[], rfl⟩

theorem Reports.noted (w : World) (e : Event) : w.Reports (w.noted e) := ⟨[e], rfl⟩

theorem Reports.trans {w w' w'' : World} : w.Reports w' → w'.Reports w'' → w.Reports w'' := by
  rintro ⟨events, rfl⟩ ⟨events', rfl⟩
  exact ⟨events' ++ events, by simp⟩

theorem Reports.form {w w' : World} : w.Reports w' → w'.form = w.form := by
  rintro ⟨_, rfl⟩
  rfl

end World

namespace FormM

/-! ## Relations that operations keep -/

/-- Whatever comes of the operation, the world it leaves is related to the one it began in. -/
def Keeps (R : World → World → Prop) (m : FormM α) : Prop := ∀ w, R w (m.runIn w).2

/-- The operation gives a result in every world. -/
def Completes (m : FormM α) : Prop := ∀ w, ∃ a w', m.runIn w = (.ok a, w')

end FormM

open FormM

/-- A relation between worlds to which any number of steps may add up. -/
structure Chained (R : World → World → Prop) : Prop where
  refl : ∀ w, R w w
  trans : ∀ {a b c}, R a b → R b c → R a c

variable {α β : Type} {R : World → World → Prop}

namespace Chained

/-- An operation that leaves the world alone keeps every such relation. -/
theorem idle (hR : Chained R) {m : FormM α} (h : ∀ w, (m.runIn w).2 = w) : Keeps R m := by
  intro w
  rw [h w]
  exact hR.refl w

theorem bindAt (hR : Chained R) {m : FormM α} {f : α → FormM β} {w : World}
    (first : R w (m.runIn w).2) (hf : ∀ a, Keeps R (f a)) : R w ((m >>= f).runIn w).2 := by
  rw [runIn_bind]
  rcases h : m.runIn w with ⟨e | a, w'⟩
  · rw [h] at first
    exact first
  · rw [h] at first
    exact hR.trans first (hf a w')

theorem bind (hR : Chained R) {m : FormM α} {f : α → FormM β} (hm : Keeps R m)
    (hf : ∀ a, Keeps R (f a)) : Keeps R (m >>= f) :=
  fun w => hR.bindAt (hm w) hf

theorem map (hR : Chained R) {g : α → β} {m : FormM α} (hm : Keeps R m) : Keeps R (g <$> m) := by
  rw [map_eq_pure_bind]
  exact hR.bind hm fun _ => hR.idle fun _ => rfl

theorem pure (hR : Chained R) (a : α) : Keeps R (pure a : FormM α) := hR.idle fun _ => rfl

theorem throw (hR : Chained R) (f : Failure) : Keeps R (throw f : FormM α) := hR.idle fun _ => rfl

theorem lift (hR : Chained R) (o : Outcome α) : Keeps R (FormM.lift o) := hR.idle fun _ => rfl

/-- What is done with an outcome is asked for if there is one. -/
theorem lifting (hR : Chained R) {o : Outcome α} {f : α → FormM β}
    (h : ∀ a, o = .ok a → Keeps R (f a)) : Keeps R (FormM.lift o >>= f) := by
  cases o with
  | error e => exact hR.idle fun _ => rfl
  | ok a => exact h a rfl

theorem get (hR : Chained R) : Keeps R (get : FormM World) := hR.idle fun _ => rfl

theorem form (hR : Chained R) : Keeps R FormM.form := hR.idle fun _ => rfl

theorem field (hR : Chained R) (id : FieldId) : Keeps R (FormM.field id) := hR.idle fun _ => rfl

end Chained

/-- What an operation does with the form is asked for in the world in which it looks at it. -/
theorem FormM.Keeps.reading {f : Form → FormM β} (h : ∀ w, R w ((f w.form).runIn w).2) :
    Keeps R (FormM.form >>= f) := by
  intro w
  rw [runIn_bind_ok (runIn_form w)]
  exact h w

theorem FormM.Keeps.ite {c : Prop} [Decidable c] {m m' : FormM α} (h : Keeps R m)
    (h' : Keeps R m') : Keeps R (if c then m else m') := by
  split
  · exact h
  · exact h'

/-! ## Operations that always give a result -/

namespace FormM.Completes

theorem pure (a : α) : Completes (pure a : FormM α) := fun w => ⟨a, w, rfl⟩

theorem form : Completes FormM.form := fun w => ⟨w.form, w, rfl⟩

theorem log (level : Level) (message : String) : Completes (FormM.log level message) :=
  fun w => ⟨(), _, runIn_log level message w⟩

theorem bind {m : FormM α} {f : α → FormM β} (hm : Completes m) (hf : ∀ a, Completes (f a)) :
    Completes (m >>= f) := by
  intro w
  obtain ⟨a, w₁, first⟩ := hm w
  rw [runIn_bind_ok first]
  exact hf a w₁

end FormM.Completes

/-! ## Operations that use a caller on few arguments -/

/-- Two callers do the same where the arguments satisfy `P`. -/
def Caller.AgreesOn (P : Arguments → Prop) (call call' : Caller) : Prop :=
  ∀ f args, P args → call f args = call' f args

/-- The operation calls functions with arguments that satisfy `P` only: callers that agree on those
make it do the same. -/
def CallsOnly (P : Arguments → Prop) (m : Caller → FormM α) : Prop :=
  ∀ call call' : Caller, call.AgreesOn P call' → m call = m call'

namespace CallsOnly

variable {P : Arguments → Prop}

/-- An operation that is handed no caller calls nothing. -/
theorem const (m : FormM α) : CallsOnly P fun _ => m := fun _ _ _ => rfl

theorem bind {m : Caller → FormM α} {f : Caller → α → FormM β} (hm : CallsOnly P m)
    (hf : ∀ a, CallsOnly P fun call => f call a) :
    CallsOnly P fun call => m call >>= f call := by
  intro call call' agree
  have rest : f call = f call' := funext fun a => hf a call call' agree
  show m call >>= f call = m call' >>= f call'
  rw [hm call call' agree, rest]

theorem callHook (args : Arguments) (h : P args) (hook : Hook) :
    CallsOnly P fun call => FormM.callHook call hook args := by
  intro call call' agree
  cases hook with
  | function f => exact agree f args h
  | value v => rfl
  | ignore => rfl

end CallsOnly

end FormRules
