/-
# Outcomes — when steps that may fail all give results

Reading a rule string, a list of field entries or the members of a document goes step by step and
stops at the first step that fails.  Here is said once what it means that it does not:

    x >>= f  gives b          x gives some a, and f a gives b
    xs.mapM f  gives ys       each x gives the y at its place

A step that fails may blame the configuration, which a client is told politely, or something else.
Steps that never blame the configuration make up longer ones that never do.
-/
import FormRules.Failure
import Mathlib.Data.List.Forall2

namespace FormRules

variable {α β ε : Type}

theorem ok_bind (a : α) (f : α → Except ε β) : (.ok a : Except ε α) >>= f = f a := rfl

theorem error_bind (e : ε) (f : α → Except ε β) : (.error e : Except ε α) >>= f = .error e := rfl

theorem bind_eq_ok_iff {x : Except ε α} {f : α → Except ε β} {b : β} :
    x >>= f = .ok b ↔ ∃ a, x = .ok a ∧ f a = .ok b := by
  cases x with
  | error e => simp [bind, Except.bind]
  | ok a => simp [bind, Except.bind]

theorem seq_eq_ok_iff {x : Except ε Unit} {y : Except ε β} {b : β} :
    (do x; y : Except ε β) = .ok b ↔ x = .ok () ∧ y = .ok b := by
  rw [bind_eq_ok_iff]
  exact ⟨fun ⟨_, ran, later⟩ => ⟨ran, later⟩, fun ⟨ran, later⟩ => ⟨(), ran, later⟩⟩

theorem map_eq_ok_iff {f : α → β} {x : Except ε α} {b : β} :
    x.map f = .ok b ↔ ∃ a, x = .ok a ∧ f a = b := by
  cases x with
  | error e => simp [Except.map]
  | ok a => simp [Except.map]

theorem pure_eq_ok_iff {a b : α} : (pure a : Except ε α) = .ok b ↔ a = b := by
  simp [pure, Except.pure]

/-- Steps one after the other give results exactly if each gives its own. -/
theorem mapM_eq_ok_iff {f : α → Except ε β} {xs : List α} {ys : List β} :
    xs.mapM f = .ok ys ↔ List.Forall₂ (fun x y => f x = .ok y) xs ys := by
  induction xs generalizing ys with
  | nil =>
      rw [List.mapM_nil, pure_eq_ok_iff, List.forall₂_nil_left_iff, eq_comm]
  | cons x rest ih =>
      simp only [List.mapM_cons, bind_eq_ok_iff, pure_eq_ok_iff, List.forall₂_cons_left_iff, ih]
      constructor
      · rintro ⟨y, first, later, others, rfl⟩
        exact ⟨y, later, first, others, rfl⟩
      · rintro ⟨y, later, first, others, rfl⟩
        exact ⟨y, first, later, others, rfl⟩

/-- Steps one after the other give results exactly if no step fails. -/
theorem exists_mapM_eq_ok_iff {f : α → Except ε β} {xs : List α} :
    (∃ ys, xs.mapM f = .ok ys) ↔ ∀ x ∈ xs, ∃ y, f x = .ok y := by
  induction xs with
  | nil => simp [pure, Except.pure]
  | cons x rest ih =>
      simp only [List.mapM_cons, bind_eq_ok_iff, pure_eq_ok_iff, List.forall_mem_cons, ← ih]
      constructor
      · rintro ⟨_, y, first, later, others, -⟩
        exact ⟨⟨y, first⟩, later, others⟩
      · rintro ⟨⟨y, first⟩, later, others⟩
        exact ⟨y :: later, y, first, later, others, rfl⟩

/-! ## Blame -/

/-- If it fails, the configuration is not to blame. -/
def Outcome.Blameless (x : Outcome α) : Prop := ∀ f, x = .error f → f.kind ≠ .configuration

theorem blameless_ok (a : α) : Outcome.Blameless (.ok a) := nofun

theorem blameless_error {f : Failure} (h : f.kind ≠ .configuration) :
    (Outcome.Blameless (.error f : Outcome α)) := by
  rintro _ ⟨⟩
  exact h

theorem blameless_bind {x : Outcome α} {f : α → Outcome β} (hx : x.Blameless)
    (hf : ∀ a, (f a).Blameless) : (x >>= f).Blameless := by
  cases x with
  | error e => exact blameless_error (hx e rfl)
  | ok a => exact hf a

theorem blameless_map {x : Outcome α} (f : α → β) (hx : x.Blameless) :
    Outcome.Blameless (x.map f) := by
  cases x with
  | error e => exact blameless_error (hx e rfl)
  | ok a => exact blameless_ok (f a)

theorem blameless_mapM {f : α → Outcome β} (hf : ∀ x, (f x).Blameless) (xs : List α) :
    Outcome.Blameless (xs.mapM f) := by
  induction xs with
  | nil => exact blameless_ok []
  | cons x rest ih =>
      rw [List.mapM_cons]
      exact blameless_bind (hf x) fun y => blameless_bind ih fun ys => blameless_ok (y :: ys)

theorem blameless_numeral {x : Except NumeralFault α} :
    Outcome.Blameless (x.mapError .numeral) := by
  cases x with
  | error fault =>
      refine blameless_error ?_
      cases fault <;> exact nofun
  | ok a => exact blameless_ok a

end FormRules
