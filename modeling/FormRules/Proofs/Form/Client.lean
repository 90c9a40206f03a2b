/-
# The client — what is asked of the functions that it hands over

Overrides, validators and listeners may do anything to fields, values, registrations and recorded
errors while they run.  Two things are asked of them where a statement says that nothing fails:

    returns       whenever such a function is called it gives a result
    keepsSetup    it leaves alone what opening the form has set up: options, messages, tiers and
                  the override of whole passes

A caller with both is `Benign`.  Nothing is asked of the functions that take over the outcome of a
submission.
-/
import FormRules.Form.Options
import FormRules.Proofs.Form.Validation

namespace FormRules

open FormM

namespace Form

/-- The form but for its fields and errors: what opening it has set up. -/
def setup (f : Form) : Form := { f with fields := .empty, errors := .empty }

/-- Some tier of the form applies to every field. -/
def Decisive (f : Form) : Prop := Tier.always ∈ f.tiers

theorem tiers_of_setup {f f' : Form} (h : f'.setup = f.setup) : f'.tiers = f.tiers :=
  show f'.setup.tiers = f.setup.tiers by rw [h]

theorem options_of_setup {f f' : Form} (h : f'.setup = f.setup) : f'.options = f.options :=
  show f'.setup.options = f.setup.options by rw [h]

theorem decisive_ofOptions (o : FormOptions) : (ofOptions o).Decisive := by
  simp [Decisive, ofOptions]

/-- The form is set up as one that has been opened. -/
def IsOpened (f : Form) : Prop := ∃ o f₀, opened o = .ok f₀ ∧ f.setup = f₀.setup

theorem accept_of_opened {o : FormOptions} {f : Form} (h : opened o = .ok f) :
    f = ofOptions o ∧ o.accept.isCallable = true := by
  unfold opened at h
  split at h
  · rename_i callable
    exact ⟨(Except.ok.inj h).symm, callable⟩
  · cases h

namespace IsOpened

variable {f : Form}

theorem decisive (h : f.IsOpened) : f.Decisive := by
  obtain ⟨o, f₀, opening, setup⟩ := h
  obtain ⟨rfl, -⟩ := accept_of_opened opening
  rw [Decisive, tiers_of_setup setup]
  exact decisive_ofOptions o

/-- Opening a form needs an accept function, and nothing is asked of the reject function. -/
theorem accepts (h : f.IsOpened) : f.options.accept.isCallable = true := by
  obtain ⟨o, f₀, opening, setup⟩ := h
  obtain ⟨rfl, callable⟩ := accept_of_opened opening
  rw [options_of_setup setup]
  exact callable

end IsOpened

end Form

/-- The form is set up as before. -/
def World.SameSetup (w w' : World) : Prop := w'.form.setup = w.form.setup

theorem World.sameSetup_frame : Frame (fun _ => True) World.SameSetup where
  refl _ := rfl
  trans h h' := h'.trans h
  noted _ _ := rfl
  recording _ _ _ _ _ _ := rfl

/-- Overrides, validators and listeners return, and leave alone how the form is set up. -/
structure Caller.Benign (call : Caller) : Prop where
  returns : ∀ f args, ¬ args.IsOutcome → Completes (call f args)
  keepsSetup : ∀ f args, ¬ args.IsOutcome → Keeps World.SameSetup (call f args)

namespace Caller

/-- Functions that do nothing. -/
def idle : Caller := fun _ _ => return .null

theorem idle_benign : idle.Benign where
  returns _ _ _ := .pure _
  keepsSetup _ _ _ := World.sameSetup_frame.pure _

end Caller

end FormRules
