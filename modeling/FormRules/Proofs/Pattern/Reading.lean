/-
# Reading — which switches decide whether a text is a pattern

Some switches change how a pattern is read, the others only how its characters are compared:

    read differently        verbose, ascii, full, template
    compared differently    ignoreCase, multiline, dotAll

Reading under switches that agree in the first kind goes the same way step by step.  It takes the
same pieces, learns the same about groups, is refused for the same reason or gives terms that are
alike (`Reader.Agree`).  There is one lemma for each step of reading, and `parse_agree` says it of
whole patterns: what is read without switches is read with switches of the second kind too.

The same lemmas say that a numeral that is refused on the way had characters.
-/
import FormRules.Proofs.Pattern.Term

namespace FormRules.Pattern

/-! ## Switches and states that are alike -/

/-- The switches that change how a pattern is read are the same. -/
structure Flags.Alike (f g : Flags) : Prop where
  verbose : f.verbose = g.verbose
  ascii : f.ascii = g.ascii
  full : f.full = g.full
  template : f.template = g.template

theorem Flags.Alike.refl (f : Flags) : f.Alike f := ⟨rfl, rfl, rfl, rfl⟩

theorem Flags.Alike.union {f g : Flags} (h : f.Alike g) (added : Flags) :
    (f.union added).Alike (g.union added) := by
  obtain ⟨verbose, ascii, full, template⟩ := h
  constructor <;> simp only [Flags.union, Flags.zip, verbose, ascii, full, template]

theorem Flags.Alike.inside {f g : Flags} (h : f.Alike g) (added removed : Flags) :
    (f.inside added removed).Alike (g.inside added removed) := by
  obtain ⟨verbose, ascii, full, template⟩ := h
  unfold Flags.inside
  split <;>
    constructor <;>
      simp only [Flags.union, Flags.without, Flags.zip, verbose, ascii, full, template]

/-- What has been learned is the same but for switches that are alike. -/
def Reading.Alike (r s : Reading) : Prop :=
  ∃ flags, s = { r with flags := flags } ∧ r.flags.Alike flags

/-- If a numeral has been refused, it had characters. -/
def Rejection.HasCharacters : Rejection → Prop
  | .numeral .missing => False
  | _ => True

namespace Reader

variable {α β γ δ : Type} {R : α → β → Prop} {S : γ → δ → Prop}

/-- Two steps are refused alike, or give related results and states that are alike. -/
inductive Meets (R : α → β → Prop) :
    Except Rejection (α × Reading) → Except Rejection (β × Reading) → Prop
  | refused {e : Rejection} (h : e.HasCharacters) : Meets R (.error e) (.error e)
  | done {a : α} {b : β} {r s : Reading} (related : R a b) (alike : r.Alike s) :
      Meets R (.ok (a, r)) (.ok (b, s))

/-- From states that are alike, two steps come to the same. -/
def Agree (R : α → β → Prop) (m : Reader α) (n : Reader β) : Prop :=
  ∀ r flags, r.flags.Alike flags → Meets R (m.run r) (n.run { r with flags := flags })

namespace Agree

theorem pure {a : α} {b : β} (h : R a b) : Agree R (Pure.pure a) (Pure.pure b) :=
  fun _ flags alike => .done h ⟨flags, rfl, alike⟩

theorem throw {e : Rejection} (h : e.HasCharacters) :
    Agree R (MonadExcept.throw e : Reader α) (MonadExcept.throw e : Reader β) :=
  fun _ _ _ => .refused h

theorem bind {m : Reader α} {n : Reader β} {f : α → Reader γ} {g : β → Reader δ}
    (hm : Agree R m n) (hf : ∀ a b, R a b → Agree S (f a) (g b)) :
    Agree S (m >>= f) (n >>= g) := by
  intro r flags alike
  have first := hm r flags alike
  show Meets S ((m.run r) >>= fun p => (f p.1).run p.2)
    ((n.run { r with flags := flags }) >>= fun p => (g p.1).run p.2)
  generalize m.run r = x at first ⊢
  generalize n.run { r with flags := flags } = y at first ⊢
  cases first with
  | refused h => exact .refused h
  | done related alike =>
      obtain ⟨flags', rfl, alike'⟩ := alike
      exact hf _ _ related _ _ alike'

/-- A step that gives the same result on both sides, and what follows it. -/
theorem step {m n : Reader α} {f : α → Reader γ} {g : α → Reader δ} (hm : Agree Eq m n)
    (hf : ∀ a, Agree S (f a) (g a)) : Agree S (m >>= f) (n >>= g) :=
  hm.bind fun a _ same => same ▸ hf a

theorem get {f : Reading → Reader γ} {g : Reading → Reader δ}
    (h : ∀ r flags, r.flags.Alike flags → Agree S (f r) (g { r with flags := flags })) :
    Agree S (MonadState.get >>= f) (MonadState.get >>= g) :=
  fun r flags alike => h r flags alike r flags alike

theorem set {r s : Reading} (h : r.Alike s) :
    Agree Eq (MonadState.set r : Reader PUnit) (MonadState.set s) :=
  fun _ _ _ => .done rfl h

theorem update {f g : Reading → Reading}
    (h : ∀ r flags, r.flags.Alike flags → (f r).Alike (g { r with flags := flags })) :
    Agree Eq (modify f : Reader PUnit) (modify g) :=
  fun r flags alike => .done rfl (h r flags alike)

/-- A step that is only taken under a condition, and what follows in any case. -/
theorem guard {c : Prop} [Decidable c] {m : Reader PUnit} {f : PUnit → Reader γ}
    {g : PUnit → Reader δ} (hm : Agree Eq m m) (hf : Agree S (f ⟨⟩) (g ⟨⟩)) :
    Agree S (if c then m >>= f else f ⟨⟩) (if c then m >>= g else g ⟨⟩) := by
  split
  · exact .step hm fun _ => hf
  · exact hf

/-- One of two steps, and what follows either. -/
theorem eitherStep {c : Prop} [Decidable c] {m n : Reader α} {f : α → Reader γ}
    {g : α → Reader δ} (hm : Agree Eq m m) (hn : Agree Eq n n) (hf : ∀ a, Agree S (f a) (g a)) :
    Agree S (if c then m >>= f else n >>= f) (if c then m >>= g else n >>= g) := by
  split
  · exact .step hm hf
  · exact .step hn hf

theorem ite {c : Prop} [Decidable c] {m m' : Reader α} {n n' : Reader β} (h : Agree R m n)
    (h' : Agree R m' n') : Agree R (if c then m else m') (if c then n else n') := by
  split
  · exact h
  · exact h'

end Agree

/-! ## Taking pieces -/

theorem tell_agree : Agree Eq tell tell := .get fun _ _ _ => .pure rfl

theorem fail_agree (cause : Cause) (back : Nat) :
    Agree R (fail cause back : Reader α) (fail cause back : Reader β) :=
  .step tell_agree fun _ => .throw trivial

theorem peek_agree : Agree Eq peek peek := .get fun _ _ _ => .pure rfl

theorem checkAhead_agree : Agree Eq checkAhead checkAhead := by
  refine .get fun r flags alike => ?_
  dsimp only
  cases r.ahead with
  | nil => exact .pure rfl
  | cons t rest => exact .ite (.throw trivial) (.pure rfl)

theorem next_agree : Agree Eq next next := by
  refine .get fun r flags alike => ?_
  dsimp only
  cases r.ahead with
  | nil => exact .pure rfl
  | cons t rest =>
      exact .step (.set ⟨flags, rfl, alike⟩) fun _ => .step checkAhead_agree fun _ => .pure rfl

theorem accept_agree (c : Char) : Agree Eq (accept c) (accept c) := by
  refine .step peek_agree fun t => ?_
  cases t with
  | none => exact .pure rfl
  | some t => exact .ite (.step next_agree fun _ => .pure rfl) (.pure rfl)

theorem takeWhile_agree (p : Char → Bool) (n : Nat) : Agree Eq (takeWhile p n) (takeWhile p n) := by
  induction n with
  | zero => exact .pure rfl
  | succ n ih =>
      refine .step peek_agree fun t => ?_
      split
      · exact .ite (.step next_agree fun _ => .step ih fun _ => .pure rfl) (.pure rfl)
      · exact .pure rfl

theorem takeAll_agree (p : Char → Bool) : Agree Eq (takeAll p) (takeAll p) :=
  .get fun _ _ _ => takeWhile_agree p _

theorem takeUntilLoop_agree (terminator : Char) (what : String) (n : Nat) (found : List Char) :
    Agree Eq (takeUntilLoop terminator what n found) (takeUntilLoop terminator what n found) := by
  induction n generalizing found with
  | zero => exact .pure rfl
  | succ n ih =>
      refine .step next_agree fun t => ?_
      cases t with
      | none => exact .ite (fail_agree _ _) (fail_agree _ _)
      | some t => exact .ite (.ite (fail_agree _ _) (.pure rfl)) (ih _)

theorem takeUntil_agree (terminator : Char) (what : String) :
    Agree Eq (takeUntil terminator what) (takeUntil terminator what) :=
  .get fun _ _ _ => takeUntilLoop_agree terminator what _ _

/-! ## Groups so far -/

theorem groupCount_agree : Agree Eq groupCount groupCount := .get fun _ _ _ => .pure rfl

theorem closedWidth?_agree (index : Nat) : Agree Eq (closedWidth? index) (closedWidth? index) := by
  refine .ite (.pure rfl) ?_
  exact .get fun _ _ _ => .pure rfl

theorem checkBehind_agree (index : Nat) : Agree Eq (checkBehind index) (checkBehind index) := by
  refine .get fun r flags alike => ?_
  dsimp only
  cases r.behindGroups with
  | none => exact .pure rfl
  | some limit =>
      exact .step (closedWidth?_agree index) fun _ =>
        .guard (fail_agree _ _) (.ite (fail_agree _ _) (.pure rfl))

end Reader

open Reader

/-! ## Escapes -/

theorem hexadecimalEscape_agree (c : Char) (width : Nat) :
    Agree Eq (hexadecimalEscape c width) (hexadecimalEscape c width) :=
  .step (takeWhile_agree _ _) fun _ =>
    .guard (fail_agree _ _) (.guard (fail_agree _ _) (.pure rfl))

theorem namedEscape_agree : Agree Eq namedEscape namedEscape := by
  refine .step (accept_agree _) fun opened => .guard (fail_agree _ _) ?_
  refine .step (takeUntil_agree _ _) fun name => .guard (fail_agree _ _) ?_
  cases Unicode.named? name with
  | none => exact fail_agree _ _
  | some n => exact .pure rfl

theorem codeEscape?_agree (c : Char) : Agree Eq (codeEscape? c) (codeEscape? c) := by
  unfold codeEscape?
  split
  · exact .step (hexadecimalEscape_agree _ _) fun _ => .pure rfl
  · exact .step (hexadecimalEscape_agree _ _) fun _ => .pure rfl
  · exact .step (hexadecimalEscape_agree _ _) fun _ => .pure rfl
  · exact .step namedEscape_agree fun _ => .pure rfl
  · exact .pure rfl

theorem plainEscape_agree (c : Char) : Agree Eq (plainEscape c) (plainEscape c) := by
  unfold plainEscape
  refine .guard (fail_agree _ _) ?_
  exact .pure rfl

theorem octalEscape_agree (digits : List Char) :
    Agree Eq (octalEscape digits) (octalEscape digits) := by
  unfold octalEscape
  refine .guard (fail_agree _ _) ?_
  exact .pure rfl

theorem setEscape_agree (c : Char) : Agree Eq (setEscape c) (setEscape c) := by
  unfold setEscape
  split
  · exact .pure rfl
  split
  · exact .pure rfl
  refine .step (codeEscape?_agree c) fun code => ?_
  cases code with
  | some n => exact .pure rfl
  | none =>
      exact .ite
        (.step (takeWhile_agree _ _) fun _ => .step (octalEscape_agree _) fun _ => .pure rfl)
        (.step (plainEscape_agree c) fun _ => .pure rfl)

theorem literal_alike (f g : Flags) (c : Char) : (literal f c).Alike (literal g c) :=
  Term.Alike.chars _ _

/-- A reference to a group is as wide as the group, however its text is compared. -/
theorem backReference_agree (f g : Flags) (index back : Nat) :
    Agree Term.Alike (backReference f index back) (backReference g index back) := by
  refine .step (closedWidth?_agree index) fun width => ?_
  cases width with
  | none => exact fail_agree _ _
  | some w =>
      exact .step (checkBehind_agree index) fun _ => .pure ⟨rfl, fun _ => rfl, rfl, rfl⟩

theorem numberEscape_agree (f g : Flags) (c : Char) :
    Agree Term.Alike (numberEscape f c) (numberEscape g c) := by
  have reference (digits : List Char) : Agree Term.Alike
      (do
        if valueIn 10 digits < (← groupCount) then
          backReference f (valueIn 10 digits) (digits.length + 1)
        else fail (.invalidGroup (valueIn 10 digits)) digits.length)
      (do
        if valueIn 10 digits < (← groupCount) then
          backReference g (valueIn 10 digits) (digits.length + 1)
        else fail (.invalidGroup (valueIn 10 digits)) digits.length) :=
    .step groupCount_agree fun _ => .ite (backReference_agree f g _ _) (fail_agree _ _)
  refine .step (takeWhile_agree _ _) fun second => ?_
  split
  · rename_i d
    refine .ite (.step (takeWhile_agree _ _) fun third => ?_) (reference [c, d])
    split
    · exact .step (octalEscape_agree _) fun _ => .pure (Term.Alike.chars _ _)
    · exact reference [c, d]
  · exact reference [c]

theorem escapeTerm_agree {f g : Flags} (h : f.Alike g) (c : Char) :
    Agree Term.Alike (escapeTerm f c) (escapeTerm g c) := by
  unfold escapeTerm
  rw [← h.ascii]
  split
  · exact .pure (Term.Alike.refl _)
  split
  · exact .pure (Term.Alike.chars _ _)
  split
  · exact .pure (Term.Alike.chars _ _)
  refine .step (codeEscape?_agree c) fun code => ?_
  cases code with
  | some n => exact .pure (Term.Alike.chars _ _)
  | none =>
      refine .ite (.step (takeWhile_agree _ _) fun _ => .pure (Term.Alike.chars _ _)) ?_
      refine .ite (numberEscape_agree f g c) ?_
      exact .step (plainEscape_agree c) fun _ => .pure (Term.Alike.chars _ _)

/-! ## Sets -/

theorem setAtom_agree (t : Token) : Agree Eq (setAtom t) (setAtom t) := by
  unfold setAtom
  split
  · exact setEscape_agree _
  · exact .pure rfl

theorem setItems_agree (ascii : Bool) (start fuel : Nat) (items : List Item) :
    Agree Eq (setItems ascii start fuel items) (setItems ascii start fuel items) := by
  have unterminated : Agree Eq
      (do fail .unterminatedSet ((← tell) - start) : Reader (List Item))
      (do fail .unterminatedSet ((← tell) - start)) := .step tell_agree fun _ => fail_agree _ _
  induction fuel generalizing items with
  | zero => exact .pure rfl
  | succ fuel ih =>
      refine .step next_agree fun t => ?_
      cases t with
      | none => exact unterminated
      | some t =>
          refine .ite (.pure rfl) (.step (setAtom_agree t) fun low => ?_)
          refine .step (accept_agree _) fun isRange => .ite (ih _) (.step next_agree fun u => ?_)
          cases u with
          | none => exact unterminated
          | some u =>
              refine .ite (.pure rfl) (.step (setAtom_agree u) fun high => ?_)
              cases low <;> cases high
              · exact .ite (fail_agree _ _) (ih _)
              all_goals exact fail_agree _ _

theorem readSet_agree {f g : Flags} (h : f.Alike g) :
    Agree Term.Alike (readSet f) (readSet g) := by
  refine .step tell_agree fun start => .step (accept_agree _) fun complement => ?_
  refine .get fun r flags alike => ?_
  rw [← h.ascii]
  refine .step (setItems_agree _ _ _ _) fun items => ?_
  split
  · exact .pure (Term.Alike.chars _ _)
  · exact .pure (Term.Alike.chars _ _)

/-! ## Repetitions -/

theorem readInt_ne_missing {text : String} {f : NumeralFault}
    (h : Numeral.readInt text = .error f) : f ≠ .missing := by
  unfold Numeral.readInt at h
  dsimp only at h
  rintro rfl
  split at h
  · cases h
  · split at h
    · cases h
    · split at h <;> cases h

theorem readCount_agree (digits : List Char) : Agree Eq (readCount digits) (readCount digits) := by
  unfold readCount
  split
  · rename_i f failed
    refine .throw ?_
    cases f with
    | missing => exact absurd rfl (readInt_ne_missing failed)
    | _ => trivial
  · exact .guard (.throw trivial) (.pure rfl)

/-- Bounds that are none are taken back, and with them nothing that was learned. -/
theorem boundsFrom_agree (here : Nat) {r s : Reading} (h : r.Alike s) :
    Agree Eq (boundsFrom here r) (boundsFrom here s) := by
  refine .step (takeAll_agree _) fun low => .step (accept_agree _) fun comma => ?_
  refine .eitherStep (takeAll_agree _) (.pure rfl) fun high => ?_
  refine .step (accept_agree _) fun closed => ?_
  refine .ite (.step (.set h) fun _ => .pure rfl) ?_
  refine .eitherStep (.pure rfl) (readCount_agree low) fun least => .ite (.pure rfl) ?_
  refine .step (readCount_agree high) fun most => ?_
  split
  · exact .step tell_agree fun _ => .step (fail_agree _ _) fun _ => .pure rfl
  · exact .pure rfl

theorem readBounds_agree : Agree Eq readBounds readBounds := by
  refine .step tell_agree fun here => .get fun r flags alike => .step peek_agree fun t => ?_
  have rest := boundsFrom_agree here (r := r) ⟨flags, rfl, alike⟩
  cases t with
  | none => exact rest
  | some t => exact .ite (.pure rfl) rest

theorem boundsOf_agree (sign : Char) : Agree Eq (boundsOf sign) (boundsOf sign) := by
  unfold boundsOf
  split
  · exact .pure rfl
  · exact .pure rfl
  · exact .pure rfl
  · exact readBounds_agree

theorem readStyle_agree : Agree Eq readStyle readStyle :=
  .step (accept_agree _) fun _ => .ite (.pure rfl) <|
    .step (accept_agree _) fun _ => .ite (.pure rfl) (.pure rfl)

/-- Whether the last term can be repeated does not depend on how its characters are compared. -/
theorem repeatLast_agree (here : Nat) (bounds : Nat × Option Nat) {ts us : List Term}
    (h : List.Forall₂ Term.Alike ts us) :
    Agree (List.Forall₂ Term.Alike) (repeatLast here bounds ts) (repeatLast here bounds us) := by
  refine .step tell_agree fun p => ?_
  cases h with
  | nil => exact fail_agree _ _
  | @cons t u ts us first rest =>
      have repeated (style : Style) := first.repeated.loop style bounds.1 bounds.2
      have isAnchor := first.anchor
      have isLoop := first.loop
      cases t <;> cases u <;> cases isAnchor <;> cases isLoop <;>
        first
        | exact fail_agree _ _
        | exact .step readStyle_agree fun style => .pure (.cons (repeated style) rest)

/-! ## Flags -/

theorem noFlag_agree (t : Token) (otherwise : String) {α β : Type} {R : α → β → Prop} :
    Agree R (noFlag t otherwise) (noFlag t otherwise) :=
  fail_agree _ _

theorem flagsOn_agree (fuel : Nat) (c : Char) (added : Flags) :
    Agree Eq (flagsOn fuel c added) (flagsOn fuel c added) := by
  induction fuel generalizing c added with
  | zero => exact .pure rfl
  | succ fuel ih =>
      unfold flagsOn
      refine .guard (fail_agree _ _) ?_
      refine .guard (fail_agree _ _) ?_
      refine .step next_agree fun t => ?_
      cases t with
      | none => exact fail_agree _ _
      | some t =>
          refine .ite (.pure rfl) (.ite (.pure rfl) (.ite (.pure rfl) ?_))
          cases t.flag? with
          | none => exact noFlag_agree _ _
          | some c => exact ih c _

theorem flagsOff_agree (fuel : Nat) (c : Char) (removed : Flags) :
    Agree Eq (flagsOff fuel c removed) (flagsOff fuel c removed) := by
  induction fuel generalizing c removed with
  | zero => exact .pure rfl
  | succ fuel ih =>
      unfold flagsOff
      refine .guard (fail_agree _ _) ?_
      refine .step next_agree fun t => ?_
      cases t with
      | none => exact fail_agree _ _
      | some t =>
          refine .ite (.pure rfl) ?_
          cases t.flag? with
          | none => exact noFlag_agree _ _
          | some c => exact ih c _

/-- Flags for the whole pattern are added on both sides. -/
theorem readFlags_agree (first : Char) : Agree Eq (readFlags first) (readFlags first) := by
  refine .get fun r flags alike => ?_
  refine .eitherStep (.pure rfl) (flagsOn_agree _ _ _) fun (added, sign) => ?_
  refine .ite ?_ ?_
  · exact .step (.update fun r flags alike => ⟨_, rfl, alike.union added⟩) fun _ => .pure rfl
  refine .guard (fail_agree _ _) ?_
  have checked (removed : Flags) : Agree Eq
      (do
        if removed.template then fail .cannotTurnOff 1
        if added.meets removed then fail .turnedOnAndOff 1
        return some (added, removed) : Reader (Option (Flags × Flags)))
      (do
        if removed.template then fail .cannotTurnOff 1
        if added.meets removed then fail .turnedOnAndOff 1
        return some (added, removed)) :=
    .guard (fail_agree _ _) (.guard (fail_agree _ _) (.pure rfl))
  refine .ite (.step next_agree fun t => ?_) (.step (.pure rfl) checked)
  cases t with
  | none => exact .step (fail_agree _ _) checked
  | some t =>
      dsimp only
      cases t.flag? with
      | none => exact .step (noFlag_agree _ _) checked
      | some c => exact .step (flagsOff_agree _ _ _) checked

/-! ## Groups -/

theorem skipComment_agree (start fuel : Nat) :
    Agree Eq (skipComment start fuel) (skipComment start fuel) := by
  induction fuel with
  | zero => exact .pure rfl
  | succ fuel ih =>
      refine .step peek_agree fun t => ?_
      split
      on_goal 1 => refine .step tell_agree fun _ => .step (fail_agree _ _) fun _ => ?_
      all_goals
        refine .step next_agree fun t => ?_
        cases t with
        | none => exact .pure rfl
        | some t => exact .ite (.pure rfl) ih

theorem checkName_agree (name : List Char) : Agree Eq (checkName name) (checkName name) :=
  .ite (fail_agree _ _) (.pure rfl)

theorem namedGroup_agree (name : List Char) : Agree Eq (namedGroup name) (namedGroup name) := by
  refine .get fun r flags alike => ?_
  dsimp only
  cases r.names.lookup (String.ofList name) with
  | none => exact fail_agree _ _
  | some index => exact .pure rfl

/-- Openings that are the same but for terms that are alike. -/
inductive Opening.Alike : Opening → Opening → Prop
  | refl (o : Opening) : Opening.Alike o o
  | done {ts us : List Term} (h : List.Forall₂ Term.Alike ts us) :
      Opening.Alike (.done ts) (.done us)

theorem readOpening_agree (f g : Flags) (start : Nat) (atStart : Bool) :
    Agree Opening.Alike (readOpening f start atStart) (readOpening g start atStart) := by
  refine .step (accept_agree _) fun extended => .ite (.pure (.refl _)) ?_
  refine .step next_agree fun t => ?_
  cases t with
  | none => exact fail_agree _ _
  | some t =>
      dsimp only
      split
      · refine .step (accept_agree _) fun named => .ite ?_ ?_
        · exact .step (takeUntil_agree _ _) fun name =>
            .step (checkName_agree name) fun _ => .pure (.refl _)
        refine .step (accept_agree _) fun again => .ite ?_ ?_
        · refine .step (takeUntil_agree _ _) fun name => .step (checkName_agree name) fun _ => ?_
          refine .step (namedGroup_agree name) fun index => ?_
          exact .bind (backReference_agree f g index _) fun t u alike =>
            .pure (.done (.cons alike .nil))
        · refine .step next_agree fun u => ?_
          cases u with
          | none => exact fail_agree _ _
          | some u => exact fail_agree _ _
      · exact .pure (.refl _)
      · exact .get fun _ _ _ => .step (skipComment_agree _ _) fun _ => .pure (.refl _)
      · exact .pure (.refl _)
      · exact .pure (.refl _)
      · refine .step next_agree fun u => ?_
        cases u with
        | none => exact fail_agree _ _
        | some u => exact .ite (.pure (.refl _)) (.ite (.pure (.refl _)) (fail_agree _ _))
      · exact .pure (.refl _)
      · exact .pure (.refl _)
      · refine .ite (.step (readFlags_agree _) fun switched => ?_) (fail_agree _ _)
        cases switched with
        | some switched => exact .pure (.refl _)
        | none =>
            dsimp only
            split
            · exact .step tell_agree fun _ => .step (fail_agree _ _) fun _ => .pure (.refl _)
            · exact .pure (.refl _)
      · exact fail_agree _ _

theorem readCondition_agree : Agree Eq readCondition readCondition := by
  refine .step (takeUntil_agree _ _) fun name => ?_
  have known (index : Nat) : Agree Eq
      (do checkBehind index; return index) (do checkBehind index; return index) :=
    .step (checkBehind_agree index) fun _ => .pure rfl
  refine .ite (.step (namedGroup_agree name) known) ?_
  split
  · exact .step (fail_agree _ _) known
  · refine .guard (fail_agree _ _) (.guard (fail_agree _ _) (.guard (fail_agree _ _) ?_))
    refine .step tell_agree fun p => .step (.update fun r flags alike => ?_) fun _ => known _
    split
    · exact ⟨flags, rfl, alike⟩
    · exact ⟨flags, rfl, alike⟩

theorem openGroup_agree (name : Option (List Char)) :
    Agree Eq (openGroup name) (openGroup name) := by
  refine .step groupCount_agree fun index => ?_
  refine .step (.update fun r flags alike => ⟨flags, rfl, alike⟩) fun _ => ?_
  cases name with
  | none => exact .pure rfl
  | some name =>
      refine .get fun r flags alike => ?_
      dsimp only
      cases r.names.lookup (String.ofList name) with
      | some first => exact .step (fail_agree _ _) fun _ => .pure rfl
      | none => exact .step (.update fun r flags alike => ⟨flags, rfl, alike⟩) fun _ => .pure rfl

theorem closeGroup_agree (index : Nat) {ts us : List Term} (h : Term.AlikeAll ts us) :
    Agree Eq (closeGroup index ts) (closeGroup index us) := by
  unfold closeGroup
  rw [h.width]
  exact .update fun r flags alike => ⟨flags, rfl, alike⟩

theorem expectClosing_agree (start : Nat) :
    Agree Eq (expectClosing start) (expectClosing start) := by
  refine .step (accept_agree _) fun closed => ?_
  exact .ite (.step tell_agree fun _ => fail_agree _ _) (.pure rfl)

/-! ## Sequences and alternatives -/

theorem skipLine_agree (fuel : Nat) : Agree Eq (skipLine fuel) (skipLine fuel) := by
  induction fuel with
  | zero => exact .pure rfl
  | succ fuel ih =>
      refine .step next_agree fun t => ?_
      cases t with
      | none => exact .pure rfl
      | some t => exact .ite (.pure rfl) ih

theorem withinBehind_agree {R : List Term → List Term → Prop} {m n : Reader (List Term)}
    (h : Agree R m n) : Agree R (withinBehind m) (withinBehind n) := by
  refine .get fun r flags alike => .step groupCount_agree fun count => ?_
  refine .step (.update fun r flags alike => ⟨flags, rfl, alike⟩) fun _ => ?_
  refine .bind h fun ts us related => ?_
  exact .step (.update fun r flags alike => ⟨flags, rfl, alike⟩) fun _ => .pure related

/-- With so much fuel, reading under switches that are alike comes to the same. -/
structure ReadsAlike (fuel : Nat) : Prop where
  alternatives : ∀ {f g : Flags}, f.Alike g → ∀ (outermost : Bool) {ts us : List (List Term)},
    List.Forall₂ Term.AlikeAll ts us →
    Agree Term.AlikeAll (readAlternatives fuel f outermost ts)
      (readAlternatives fuel g outermost us)
  sequence : ∀ {f g : Flags}, f.Alike g → ∀ (first : Bool) {ts us : List Term},
    List.Forall₂ Term.Alike ts us →
    Agree Term.AlikeAll (readSequence fuel f first ts) (readSequence fuel g first us)
  group : ∀ {f g : Flags}, f.Alike g → ∀ (start : Nat) (atStart : Bool),
    Agree (List.Forall₂ Term.Alike) (readGroup fuel f start atStart)
      (readGroup fuel g start atStart)

theorem isEmpty_of_forall₂ {α β : Type} {R : α → β → Prop} {as : List α} {bs : List β}
    (h : List.Forall₂ R as bs) : as.isEmpty = bs.isEmpty := by
  cases h <;> rfl

theorem Term.AlikeAll.ofReversed {ts us : List Term} (h : List.Forall₂ Term.Alike ts us) :
    Term.AlikeAll (Term.unwrapped ts.reverse) (Term.unwrapped us.reverse) :=
  (Term.AlikeAll.of_forall₂ (List.forall₂_reverse_iff.mpr h)).unwrapped

theorem Term.AlikeAll.eitherReversed {ts us : List (List Term)}
    (h : List.Forall₂ Term.AlikeAll ts us) :
    Term.AlikeAll (Term.either ts.reverse) (Term.either us.reverse) :=
  .either (List.forall₂_reverse_iff.mpr h)

namespace ReadsAlike

variable {fuel : Nat}

theorem alternativesStep (ih : ReadsAlike fuel) {f g : Flags} (h : f.Alike g) (outermost : Bool)
    {ts us : List (List Term)} (alike : List.Forall₂ Term.AlikeAll ts us) :
    Agree Term.AlikeAll (readAlternatives (fuel + 1) f outermost ts)
      (readAlternatives (fuel + 1) g outermost us) := by
  unfold readAlternatives
  refine .get fun r flags whole => ?_
  have chosen : (if outermost then r.flags else f).Alike (if outermost then flags else g) := by
    split
    · exact whole
    · exact h
  rw [isEmpty_of_forall₂ alike]
  refine .bind (ih.sequence chosen _ .nil) fun next next' here => ?_
  refine .step (accept_agree _) fun more => ?_
  exact .ite (ih.alternatives chosen outermost (.cons here alike))
    (.pure (.eitherReversed (.cons here alike)))

theorem sequenceStep (ih : ReadsAlike fuel) {f g : Flags} (h : f.Alike g) (first : Bool)
    {ts us : List Term} (alike : List.Forall₂ Term.Alike ts us) :
    Agree Term.AlikeAll (readSequence (fuel + 1) f first ts)
      (readSequence (fuel + 1) g first us) := by
  have and (t u : Term) (same : t.Alike u) := ih.sequence h first (.cons same alike)
  unfold readSequence
  refine .step peek_agree fun t => ?_
  cases t with
  | none => exact .pure (.ofReversed alike)
  | some t =>
      refine .ite (.pure (.ofReversed alike)) (.step next_agree fun _ => ?_)
      rw [← h.verbose]
      dsimp only
      split
      · exact .bind (escapeTerm_agree h _) and
      · refine .ite (ih.sequence h first alike) (.ite ?_ ?_)
        · exact .get fun _ _ _ => .step (skipLine_agree _) fun _ => ih.sequence h first alike
        split
        · exact .bind (readSet_agree h) and
        · exact and _ _ (Term.Alike.chars _ _)
        · exact and _ _ (Term.Alike.anchors _ _)
        · exact and _ _ (Term.Alike.anchors _ _)
        · refine .step tell_agree fun p => ?_
          rw [isEmpty_of_forall₂ alike]
          refine .bind (ih.group h _ _) fun added added' same => .get fun r flags whole => ?_
          have chosen : (if first then r.flags else f).Alike (if first then flags else g) := by
            split
            · exact whole
            · exact h
          exact ih.sequence chosen first (List.rel_append same alike)
        -- The four characters that begin a repetition; the last may also stand for itself.
        iterate 4
          · refine .step tell_agree fun here => .step (boundsOf_agree _) fun bounds => ?_
            cases bounds with
            | none => exact and _ _ (literal_alike f g _)
            | some bounds =>
                exact .bind (repeatLast_agree here bounds alike) fun ts us alike =>
                  ih.sequence h first alike
        · exact and _ _ (literal_alike f g _)
      · exact ih.sequence h first alike

theorem groupStep (ih : ReadsAlike fuel) {f g : Flags} (h : f.Alike g) (start : Nat)
    (atStart : Bool) :
    Agree (List.Forall₂ Term.Alike) (readGroup (fuel + 1) f start atStart)
      (readGroup (fuel + 1) g start atStart) := by
  have body {f g : Flags} (h : f.Alike g) := ih.alternatives h false .nil
  have alone {t u : Term} (same : t.Alike u) : List.Forall₂ Term.Alike [t] [u] := .cons same .nil
  unfold readGroup
  refine .bind (readOpening_agree f g start atStart) fun opening opening' same => ?_
  cases same with
  | done alike => exact .pure alike
  | refl =>
    cases opening with
    | capture name =>
        refine .step (openGroup_agree name) fun index => .bind (body h) fun ts us alike => ?_
        refine .step (expectClosing_agree start) fun _ => .step (closeGroup_agree index alike) ?_
        exact fun _ => .pure (alone (alike.group _ _))
    | plain added removed =>
        refine .bind (body (h.inside added removed)) fun ts us alike => ?_
        exact .step (expectClosing_agree start) fun _ => .pure (alone (alike.group _ _))
    | atomic =>
        refine .bind (body h) fun ts us alike => ?_
        exact .step (expectClosing_agree start) fun _ => .pure (alone alike.atomic)
    | ahead negated =>
        refine .bind (body h) fun ts us alike => ?_
        exact .step (expectClosing_agree start) fun _ => .pure (alone (alike.ahead negated))
    | behind negated =>
        refine .bind (withinBehind_agree (body h)) fun ts us alike => ?_
        exact .step (expectClosing_agree start) fun _ => .pure (alone (alike.behind negated))
    | choose =>
        refine .step readCondition_agree fun index => ?_
        refine .bind (ih.sequence h false .nil) fun ts us present => ?_
        have closed (absent absent' : Option (List Term))
            (same : (Term.choose index ts absent).Alike (.choose index us absent')) :
            Agree (List.Forall₂ Term.Alike)
              (do expectClosing start; return [Term.choose index ts absent])
              (do expectClosing start; return [Term.choose index us absent']) :=
          .step (expectClosing_agree start) fun _ => .pure (alone same)
        refine .step (accept_agree _) fun two => .ite ?_ (closed none none (present.choose index))
        refine .bind (ih.sequence h false .nil) fun ts' us' absent => .step peek_agree fun t => ?_
        have two := closed (some ts') (some us') (present.chooseElse absent index)
        cases t with
        | none => exact two
        | some t => exact .guard (fail_agree _ _) two
    | done ts => exact .pure (List.forall₂_same.mpr fun t _ => .refl t)

end ReadsAlike

theorem readsAlike (fuel : Nat) : ReadsAlike fuel := by
  induction fuel with
  | zero =>
      exact ⟨fun _ _ _ _ alike => .pure (.eitherReversed alike),
        fun _ _ _ _ alike => .pure (.ofReversed alike), fun _ _ _ => .pure .nil⟩
  | succ fuel ih => exact ⟨ih.alternativesStep, ih.sequenceStep, ih.groupStep⟩

/-! ## Whole patterns -/

theorem readWhole_agree (fuel : Nat) : Agree Term.AlikeAll (readWhole fuel) (readWhole fuel) := by
  refine .step checkAhead_agree fun _ => .get fun r flags alike => ?_
  refine .bind ((readsAlike fuel).alternatives alike true .nil) fun ts us same => ?_
  refine .get fun r flags alike => ?_
  dsimp only
  rw [alike.ascii, alike.full, alike.template, same.faults]
  refine .guard (.throw trivial) (.step peek_agree fun t => .guard (fail_agree _ _) ?_)
  cases r.choices.find? fun e => decide (r.widths.length < e.1)
  case' some choice => refine .step (.throw trivial) fun _ => ?_
  all_goals
    cases lateFaultOf? flags.template us with
    | none => exact .pure same
    | some cause => exact .step (.throw trivial) fun _ => .pure same

/-- **Reading under switches that are alike.**  A text is refused for the same reason, by a numeral
with characters if by a numeral, or read into terms that are alike. -/
theorem parse_agree (text : String) {f g : Flags} (h : f.Alike g) :
    (∃ e, e.HasCharacters ∧ parse text f = .error e ∧ parse text g = .error e) ∨
      ∃ ts us, parse text f = .ok ts ∧ parse text g = .ok us ∧ Term.AlikeAll ts us := by
  have met := readWhole_agree (4 * text.toList.length + 8)
    ⟨tokensFrom 0 text.toList, text.toList.length, [], [], f, none, []⟩ g h
  unfold parse
  dsimp only at met ⊢
  generalize (readWhole _).run _ = x at met ⊢
  generalize (readWhole _).run _ = y at met ⊢
  cases met with
  | refused h => exact .inl ⟨_, h, rfl, rfl⟩
  | done related _ => exact .inr ⟨_, _, rfl, rfl, related⟩

/-- What is a pattern is one under all switches that change how characters are compared only. -/
theorem parse_isOk_of_alike {text : String} {f g : Flags} (h : f.Alike g) {ts : List Term}
    (read : parse text f = .ok ts) : ∃ us, parse text g = .ok us := by
  obtain ⟨e, -, refused, -⟩ | ⟨_, us, -, read', -⟩ := parse_agree text h
  · cases refused.symm.trans read
  · exact ⟨us, read'⟩

end FormRules.Pattern
