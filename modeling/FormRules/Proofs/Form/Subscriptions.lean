/-
# Subscriptions — which of them a handle ends

A function that is subscribed becomes a listener, and the client gets a handle for the subscription.
Calling the handle ends a subscription.  It looks for the function, and so it ends the first live
subscription of that function, which need not be the handle's own:

    the handle's own subscription     others of the function     the handle ends
    is the first live one             any                        its own
    is a later live one               live                       the first one
    has ended                         live                       the first one
    has ended                         none live                  nothing

The subscriptions of one function therefore end in the order in which they were made, whichever of
their handles is called, and however often.  How many of them are live is a matter of counting
(`liveCount`), and those are the latest ones (`live_suffix`).

Each handle ends its own subscription and no other, at any time, exactly if it is only ever called
where the first line or the last one applies (`faithful_iff`).  In particular this is so for
functions that are subscribed once.
-/
import FormRules.Proofs.Form.Journal
import Mathlib.Data.List.Induction
import Mathlib.Data.List.Nodup

namespace FormRules

namespace Callback

theorem same_iff {a b : Callback} : a.same b = true ↔ a.number = b.number := beq_iff_eq

theorem same_congr {a b : Callback} (h : a.same b = true) (c : Callback) :
    c.same a = c.same b := by
  rw [same, same, same_iff.mp h]

end Callback

namespace ErrorState

/-! ## Subscriptions that are made -/

/-- The subscriptions that a journal makes, in order. -/
def made : ErrorState → Journal → List Subscription
  | _, [] => []
  | s, a :: j =>
      match a with
      | .subscribe listener => (s.subscribe listener).1 :: made (a.apply s) j
      | _ => made (a.apply s) j

/-- The subscriptions of a function among others, in order. -/
def ofListener (f : Callback) (ls : List Subscription) : List Subscription :=
  ls.filter (·.listener.same f)

variable {s : ErrorState} {j : Journal} {l : Subscription} {f : Callback}

theorem replay_concat (s : ErrorState) (j : Journal) (a : Act) :
    s.replay (j ++ [a]) = a.apply (s.replay j) := by
  rw [replay_append]
  rfl

theorem made_append (s : ErrorState) (j j' : Journal) :
    s.made (j ++ j') = s.made j ++ (s.replay j).made j' := by
  induction j generalizing s with
  | nil => rfl
  | cons a rest ih => cases a <;> simp [made, ih]

theorem tickets_le_replay (s : ErrorState) (j : Journal) : s.tickets ≤ (s.replay j).tickets := by
  induction j generalizing s with
  | nil => exact Nat.le_refl _
  | cons a rest ih =>
      have first : s.tickets ≤ (a.apply s).tickets := by
        cases a with
        | subscribe => exact Nat.le_succ _
        | update | call | unsubscribe => exact Nat.le_refl _
      exact first.trans (ih _)

/-- The tickets of subscriptions that have been made are used up. -/
theorem ticket_lt_of_mem_made (h : l ∈ s.made j) : l.ticket < (s.replay j).tickets := by
  induction j generalizing s with
  | nil => cases h
  | cons a rest ih =>
      cases a with
      | subscribe listener =>
          rcases List.mem_cons.mp h with rfl | h
          · exact Nat.lt_of_lt_of_le (Nat.lt_succ_self _)
              (tickets_le_replay (s.subscribe listener).2 rest)
          · exact ih h
      | update | call | unsubscribe => exact ih h

/-- The live subscriptions are in the order in which they were made. -/
theorem listeners_sublist (s : ErrorState) (j : Journal) :
    (s.replay j).listeners.Sublist (s.listeners ++ s.made j) := by
  induction j generalizing s with
  | nil => simp [made]
  | cons a rest ih =>
      have later := ih (a.apply s)
      cases a with
      | subscribe listener => simpa [made, Act.apply, subscribe] using later
      | update | call => exact later
      | unsubscribe l => exact later.trans (List.eraseP_sublist.append_right _)

/-! ## What is left of the subscriptions of a function -/

/-- The number of live subscriptions of a function after an act, if there were `n` before. -/
def Act.count (f : Callback) (n : Nat) : Act → Nat
  | .subscribe g => if g.same f then n + 1 else n
  | .unsubscribe l => if l.listener.same f then n - 1 else n
  | .update .. | .call .. => n

/-- How many subscriptions of a function are live after a journal that began without any. -/
def liveCount (f : Callback) (j : Journal) : Nat := j.foldl (Act.count f) 0

/-- A handle of a function ends the first subscription of it. -/
theorem ofListener_unsubscribe (s : ErrorState) (l : Subscription) (f : Callback) :
    ofListener f (s.unsubscribe l).listeners =
      if l.listener.same f then (ofListener f s.listeners).tail else ofListener f s.listeners := by
  show ofListener f (s.listeners.eraseP (·.listener.same l.listener)) = _
  induction s.listeners with
  | nil => simp [ofListener]
  | cons first rest ih =>
      rw [List.eraseP_cons]
      by_cases own : first.listener.same l.listener = true
      · by_cases same : l.listener.same f = true
        · have found : first.listener.same f = true := Callback.same_congr same _ ▸ own
          simp [ofListener, own, same, found]
        · have other : ¬ first.listener.same f = true := by
            rw [Callback.same_iff] at own same ⊢
            rwa [own]
          simp [ofListener, own, same, other]
      · by_cases same : l.listener.same f = true
        · have other : ¬ first.listener.same f = true := Callback.same_congr same _ ▸ own
          simpa [ofListener, own, same, other] using ih
        · rw [if_neg same] at ih ⊢
          by_cases found : first.listener.same f = true
          · simpa [ofListener, own, found] using ih
          · simpa [ofListener, own, found] using ih

/-- **The live subscriptions of a function are the latest ones**, as many as counting gives. -/
theorem live_suffix (f : Callback) (j : Journal) :
    ofListener f (empty.replay j).listeners <:+ ofListener f (empty.made j) ∧
      (ofListener f (empty.replay j).listeners).length = liveCount f j := by
  induction j using List.reverseRecOn with
  | nil => exact ⟨List.suffix_refl _, rfl⟩
  | append_singleton j a ih =>
      obtain ⟨suffix, length⟩ := ih
      have counted : liveCount f (j ++ [a]) = a.count f (liveCount f j) := by simp [liveCount]
      rw [replay_concat, made_append, counted]
      cases a with
      | update | call => simpa [made, Act.apply, Act.count] using ⟨suffix, length⟩
      | subscribe g =>
          by_cases same : g.same f = true
          · obtain ⟨ended, parts⟩ := suffix
            simp only [ofListener] at parts length
            simp [made, Act.apply, Act.count, subscribe, ofListener, same, length, ← parts]
          · simpa [made, Act.apply, Act.count, subscribe, ofListener, same] using ⟨suffix, length⟩
      | unsubscribe l =>
          have ended := ofListener_unsubscribe (empty.replay j) l f
          by_cases same : l.listener.same f = true
          · rw [if_pos same] at ended
            simp only [made, Act.apply, Act.count, same, if_true, List.append_nil, ended]
            exact ⟨(List.tail_suffix _).trans suffix, by rw [List.length_tail, length]⟩
          · rw [if_neg same] at ended
            simp only [made, Act.apply, Act.count, same, List.append_nil, ended]
            exact ⟨suffix, length⟩

/-! ## Handles that end their own subscription -/

/-- Only handles of subscriptions that have been made are called. -/
def Held (j : Journal) : Prop :=
  ∀ before l later, j = before ++ .unsubscribe l :: later → l ∈ empty.made before

/-- The live subscriptions are those whose own handle has never been called. -/
def Faithful (j : Journal) : Prop :=
  ∀ l, l ∈ (empty.replay j).listeners ↔ l ∈ empty.made j ∧ .unsubscribe l ∉ j

/-- No subscription of the function is live before the given one. -/
def IsFirst (s : ErrorState) (l : Subscription) : Prop :=
  ∀ first ∈ s.listeners.find? (·.listener.same l.listener), first = l

/-- A handle ends its own subscription and no other exactly if that is the first one of the
function, or none of the function is live. -/
theorem mem_unsubscribe_iff (h : s.Ordered) (l : Subscription) :
    (∀ x, x ∈ (s.unsubscribe l).listeners ↔ x ∈ s.listeners ∧ x ≠ l) ↔ s.IsFirst l := by
  have nodup : s.listeners.Nodup := h.ascending.imp fun less same => by
    rw [same] at less
    exact Nat.lt_irrefl _ less
  show (∀ x, x ∈ s.listeners.eraseP (·.listener.same l.listener) ↔ _) ↔ _
  cases found : s.listeners.find? (·.listener.same l.listener) with
  | none =>
      have none (x : Subscription) (hx : x ∈ s.listeners) :
          ¬ x.listener.same l.listener = true := by
        simpa using List.find?_eq_none.mp found x hx
      refine iff_of_true (fun x => ?_) (by simp [IsFirst, found])
      rw [List.eraseP_of_forall_not none]
      refine ⟨fun hx => ⟨hx, ?_⟩, And.left⟩
      rintro rfl
      exact none x hx (Callback.same_iff.mpr rfl)
  | some first =>
      obtain ⟨own, before, later, split, apart⟩ := List.find?_eq_some_iff_append.mp found
      have left : s.listeners.eraseP (·.listener.same l.listener) = before ++ later := by
        rw [split, List.eraseP_append_right _ fun x hx => by simpa using apart x hx,
          List.eraseP_cons, own, cond_true]
      have away (x : Subscription) : x ∈ before ++ later ↔ x ∈ s.listeners ∧ x ≠ first := by
        rw [split] at nodup ⊢
        have unlisted := (List.nodup_cons.mp (List.nodup_middle.mp nodup)).1
        rw [List.mem_append, List.mem_append, List.mem_cons]
        refine ⟨fun hx => ⟨hx.imp_right .inr, ?_⟩, ?_⟩
        · rintro rfl
          exact unlisted (List.mem_append.mpr hx)
        · rintro ⟨hx | rfl | hx, other⟩
          · exact .inl hx
          · exact absurd rfl other
          · exact .inr hx
      have live : first ∈ s.listeners := List.mem_of_find?_eq_some found
      have isFirst : s.IsFirst l ↔ first = l := by simp [IsFirst, found]
      simp only [left, away, isFirst]
      constructor
      · intro ends
        by_contra other
        exact ((ends first).mpr ⟨live, other⟩).2 rfl
      · rintro rfl x
        rfl

/-- Among handles that end their own subscriptions, one more act keeps that up unless it calls a
handle whose subscription is not the first one. -/
theorem faithful_concat_iff {a : Act} (held : Held (j ++ [a])) (h : Faithful j) :
    Faithful (j ++ [a]) ↔ ∀ l, a = .unsubscribe l → (empty.replay j).IsFirst l := by
  unfold Faithful at h ⊢
  simp only [replay_concat, made_append, List.mem_append, List.mem_singleton, not_or]
  cases a with
  | update time name value =>
      have kept : ((empty.replay j).record name value).listeners = (empty.replay j).listeners := rfl
      simpa [made, Act.apply, kept] using h
  | call => simpa [made, Act.apply] using h
  | subscribe g =>
      -- No handle of the new subscription has been called, since its ticket was not used up.
      have uncalled : .unsubscribe ((empty.replay j).subscribe g).1 ∉ j := by
        intro called
        obtain ⟨before, later, split⟩ := List.append_of_mem called
        have used := ticket_lt_of_mem_made (held before ((empty.replay j).subscribe g).1
          (later ++ [.subscribe g]) (by simpa using congrArg (· ++ [Act.subscribe g]) split))
        have still := tickets_le_replay (empty.replay before)
          (.unsubscribe ((empty.replay j).subscribe g).1 :: later)
        rw [← replay_append, ← split] at still
        exact Nat.lt_irrefl _ (used.trans_le still)
      refine iff_of_true (fun l => ?_) nofun
      simp only [made, Act.apply, subscribe, List.mem_append, List.mem_singleton] at uncalled ⊢
      rw [h]
      constructor
      · rintro (⟨hl, free⟩ | rfl)
        · exact ⟨.inl hl, free, nofun⟩
        · exact ⟨.inr rfl, uncalled, nofun⟩
      · rintro ⟨hl | rfl, free, -⟩
        · exact .inl ⟨hl, free⟩
        · exact .inr rfl
  | unsubscribe l =>
      have ends := mem_unsubscribe_iff (ordered_empty.replay j) l
      simp only [made, Act.apply, List.not_mem_nil, or_false, Act.unsubscribe.injEq, forall_eq',
        ← ends, h, and_assoc]

theorem Held.of_append {j' : Journal} (held : Held (j ++ j')) : Held j :=
  fun before l later split => held before l (later ++ j') (by simp [split])

/-- At any time in the course of a journal the live subscriptions are those whose own handle has
never been called, exactly if each handle is called where it ends its own subscription. -/
theorem faithful_iff (held : Held j) :
    (∀ before later, j = before ++ later → Faithful before) ↔
      ∀ before l later, j = before ++ .unsubscribe l :: later → (empty.replay before).IsFirst l := by
  constructor
  · intro faithful before l later split
    have step : j = (before ++ [.unsubscribe l]) ++ later := by simp [split]
    have held' : Held (before ++ [.unsubscribe l]) := (step ▸ held).of_append
    exact (faithful_concat_iff held' (faithful _ _ split)).mp (faithful _ _ step) l rfl
  · intro first before later split
    induction before using List.reverseRecOn generalizing later with
    | nil => exact fun l => by simp [made, replay, empty]
    | append_singleton before a ih =>
        rw [List.append_assoc] at split
        refine (faithful_concat_iff ?_ (ih _ split)).mpr fun l called => ?_
        · rw [← List.append_assoc] at split
          exact (split ▸ held).of_append
        · subst called
          exact first before l later split

/-- **What handles end.**  The live subscriptions are in the order in which they were made, and those
of one function are its latest ones, one less for each call of any of its handles as long as there
are some.  So each handle ends its own subscription and no other, however often it is called, exactly
if no earlier subscription of the function is live when it is called, nor any at all if its own has
ended; in particular if no function is subscribed twice. -/
theorem handles_end_first (held : Held j) :
    (empty.replay j).listeners.Sublist (empty.made j) ∧
      (∀ f, ofListener f (empty.replay j).listeners <:+ ofListener f (empty.made j) ∧
        (ofListener f (empty.replay j).listeners).length = liveCount f j) ∧
      ((∀ before later, j = before ++ later → Faithful before) ↔ ∀ before l later,
        j = before ++ .unsubscribe l :: later → (empty.replay before).IsFirst l) ∧
      ((∀ l ∈ empty.made j, ∀ l' ∈ empty.made j, l.listener.same l'.listener = true → l = l') →
        Faithful j) := by
  refine ⟨listeners_sublist empty j, (live_suffix · j), faithful_iff held, fun once => ?_⟩
  refine (faithful_iff held).mpr ?_ j [] (List.append_nil j).symm
  intro before l later split first found
  have made {x : Subscription} (hx : x ∈ empty.made before) : x ∈ empty.made j := by
    rw [split, made_append]
    exact List.mem_append_left _ hx
  have live : first ∈ (empty.replay before).listeners := List.mem_of_find?_eq_some found
  have same := List.find?_some found
  exact once first (made ((listeners_sublist empty before).subset live)) l
    (made (held before l later split)) same

/-! ## A handle that is called twice -/

/-- A listener that is subscribed twice, and whose first handle is called twice. -/
def resubscribed : Journal :=
  let x : Callback := ⟨.listener (.str "x"), 0, 0⟩
  [.subscribe x, .subscribe x, .unsubscribe ⟨x, 0⟩, .unsubscribe ⟨x, 0⟩]

/-- The second call of the first handle ends the second subscription, whose own handle has never
been called. -/
theorem resubscribed_ends_both :
    Held resubscribed ∧ (empty.replay resubscribed).listeners = [] ∧
      ¬ ∀ before later, resubscribed = before ++ later → Faithful before := by
  have held : Held resubscribed := by
    intro before l later split
    match before with
    | [] | [_] => simp [resubscribed] at split
    | [_, _] | [_, _, _] =>
        simp only [resubscribed, List.cons_append, List.nil_append, List.cons.injEq,
          Act.unsubscribe.injEq] at split
        obtain ⟨rfl, rfl, h⟩ := split
        grind [made, subscribe, empty]
    | _ :: _ :: _ :: _ :: before => simp [resubscribed] at split
  refine ⟨held, rfl, fun faithful => ?_⟩
  have first := (handles_end_first held).2.2.1.mp faithful (resubscribed.take 3) _ [] rfl
  have second := first ⟨⟨.listener (.str "x"), 0, 0⟩, 1⟩ rfl
  simp at second

end ErrorState

end FormRules
