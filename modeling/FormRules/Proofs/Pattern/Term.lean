/-
# Terms — what becomes of widths and faults when terms are put together

Reading a pattern rearranges terms.  What all alternatives begin with is put in front of the choice,
single characters become a set, and groups that only hold things together are left out.  Two things
about the terms matter while reading goes on, and neither is changed by that:

    how many characters they take          `either_spec`, `widthOf_unwrapped`
    the first fault that is noticed late   `either_spec`, `lateFaultOf?_unwrapped`

So terms are *alike* when they agree in these two and in whether they can be repeated, however
their characters are compared (`Term.Alike`).
-/
import FormRules.Pattern.Parser
import Mathlib.Data.List.Forall2

namespace FormRules.Pattern

/-! ## Widths -/

namespace Width

/-- The limits of counting have been applied. -/
def IsWithin (w : Width) : Prop := w.least ≤ countLimit - 1 ∧ w.most ≤ countLimit

theorem isWithin_within (least most : Nat) : (within least most).IsWithin :=
  ⟨Nat.min_le_right _ _, Nat.min_le_right _ _⟩

theorem isWithin_either {v w : Width} (hv : v.IsWithin) (hw : w.IsWithin) :
    (v.either w).IsWithin := by
  obtain ⟨least, most⟩ := hv
  refine ⟨Nat.le_trans (Nat.min_le_left _ _) least, Nat.max_le.mpr ⟨most, hw.2⟩⟩

theorem plus_nothing {w : Width} (h : w.IsWithin) : w.plus (.exactly 0) = w := by
  obtain ⟨least, most⟩ := w
  obtain ⟨hleast, hmost⟩ := h
  simp only [plus, exactly, within, Width.mk.injEq] at *
  omega

theorem nothing_plus {w : Width} (h : w.IsWithin) : (exactly 0).plus w = w := by
  obtain ⟨least, most⟩ := w
  obtain ⟨hleast, hmost⟩ := h
  simp only [plus, exactly, within, Width.mk.injEq] at *
  omega

theorem plus_assoc (u v w : Width) : (u.plus v).plus w = u.plus (v.plus w) := by
  simp only [plus, within, Width.mk.injEq]
  omega

theorem plus_either (u v w : Width) : u.plus (v.either w) = (u.plus v).either (u.plus w) := by
  simp only [plus, either, within, Width.mk.injEq]
  omega

end Width

namespace Term

theorem isWithin_widthOf (ts : List Term) : (widthOf ts).IsWithin := by
  cases ts with
  | nil => exact Width.isWithin_within 0 0
  | cons t rest => exact Width.isWithin_within _ _

theorem isWithin_widthOfAny (alternatives : List (List Term)) :
    (widthOfAny alternatives).IsWithin := by
  induction alternatives with
  | nil => exact Width.isWithin_within 0 0
  | cons ts rest ih =>
      cases rest with
      | nil => exact isWithin_widthOf ts
      | cons ts' rest => exact Width.isWithin_either (isWithin_widthOf ts) ih

theorem widthOf_append (ts us : List Term) :
    widthOf (ts ++ us) = (widthOf ts).plus (widthOf us) := by
  induction ts with
  | nil => exact (Width.nothing_plus (isWithin_widthOf us)).symm
  | cons t rest ih => rw [List.cons_append, widthOf, widthOf, ih, Width.plus_assoc]

theorem widthOf_singleton (t : Term) : widthOf [t] = t.width.plus (.exactly 0) := rfl

end Term

/-! ## Late faults -/

theorem lateFaultOf?_append (template : Bool) (ts us : List Term) :
    lateFaultOf? template (ts ++ us) =
      (lateFaultOf? template ts).orElse fun _ => lateFaultOf? template us := by
  induction ts with
  | nil => rfl
  | cons t rest ih =>
      rw [List.cons_append, lateFaultOf?, lateFaultOf?, ih]
      cases lateFault? template t <;> rfl

theorem lateFaultOf?_singleton (template : Bool) (t : Term) :
    lateFaultOf? template [t] = lateFault? template t := by
  rw [lateFaultOf?, lateFaultOf?]
  cases lateFault? template t <;> rfl

namespace Term

/-! ## Groups that only hold things together -/

theorem widthOf_repeated (t : Term) : widthOf t.repeated = t.width.plus (.exactly 0) := by
  unfold repeated
  split
  · rename_i body
    rw [width, Width.plus_nothing (isWithin_widthOf body)]
  · exact widthOf_singleton t

theorem lateFaultOf?_repeated (template : Bool) (t : Term) :
    lateFaultOf? template t.repeated = lateFault? template t := by
  unfold repeated
  split
  · rw [lateFault?]
  · exact lateFaultOf?_singleton template t

theorem unwrapped_cons (t : Term) (rest : List Term) :
    unwrapped (t :: rest) = t.repeated ++ unwrapped rest := by
  cases t with
  | group index isSwitch body => cases index <;> cases isSwitch <;> rfl
  | _ => rfl

theorem widthOf_unwrapped (ts : List Term) : widthOf (unwrapped ts) = widthOf ts := by
  induction ts with
  | nil => rfl
  | cons t rest ih =>
      rw [unwrapped_cons, widthOf_append, widthOf_repeated, ih, widthOf, Width.plus_assoc,
        Width.nothing_plus (isWithin_widthOf rest)]

theorem lateFaultOf?_unwrapped (template : Bool) (ts : List Term) :
    lateFaultOf? template (unwrapped ts) = lateFaultOf? template ts := by
  induction ts with
  | nil => rfl
  | cons t rest ih =>
      rw [unwrapped_cons, lateFaultOf?_append, lateFaultOf?_repeated, ih, lateFaultOf?]

/-! ## Alternatives -/

/-- A term that is the same as another one has no terms inside, and so no late fault. -/
theorem lateFault?_of_isSame {t u : Term} (h : t.isSame u = true) (template : Bool) :
    lateFault? template u = none := by
  cases t <;> cases u <;> simp_all [isSame, lateFault?]

/-- Terms that are the same take as many characters. -/
theorem width_of_isSame {t u : Term} (h : t.isSame u = true) : u.width = t.width := by
  cases t <;> cases u <;> simp_all [isSame, width]

/-- All alternatives begin with a term. -/
def BeginWith (t : Term) (alternatives : List (List Term)) : Prop :=
  ∀ ts ∈ alternatives, ∃ u rest, ts = u :: rest ∧ t.isSame u = true

theorem isSame_symm {t u : Term} (h : t.isSame u = true) : u.isSame t = true := by
  cases t <;> cases u <;> simp_all [isSame]

theorem isSame_trans {t u v : Term} (h : t.isSame u = true) (h' : u.isSame v = true) :
    t.isSame v = true := by
  cases t <;> cases u <;> cases v <;> simp_all [isSame]

/-- The common first term is the one that all alternatives begin with, unless there is only one
alternative, which may begin with any term. -/
theorem beginWith_of_commonFirst? {alternatives : List (List Term)} {t : Term}
    (h : commonFirst? alternatives = some t) (several : 2 ≤ alternatives.length) :
    BeginWith t alternatives := by
  match alternatives, h, several with
  | (u :: first) :: ts :: rest, h, _ =>
      simp only [commonFirst?, Option.ite_none_right_eq_some, List.all_eq_true,
        Option.some.injEq] at h
      obtain ⟨all, rfl⟩ := h
      have later (us : List Term) (hus : us ∈ ts :: rest) :
          ∃ v more, us = v :: more ∧ u.isSame v = true := by
        cases us with
        | nil => cases all [] hus
        | cons v more => exact ⟨v, more, rfl, all _ hus⟩
      obtain ⟨v, -, -, same⟩ := later ts List.mem_cons_self
      have first : ∃ v more, u :: first = v :: more ∧ u.isSame v = true :=
        ⟨u, first, rfl, isSame_trans same (isSame_symm same)⟩
      exact List.forall_mem_cons.mpr ⟨first, later⟩

theorem widthOfAny_cons {ts : List Term} {rest : List (List Term)} (h : rest ≠ []) :
    widthOfAny (ts :: rest) = (widthOf ts).either (widthOfAny rest) := by
  cases rest with
  | nil => exact absurd rfl h
  | cons us rest => rfl

/-- A term that all alternatives begin with may as well stand in front of them. -/
theorem widthOfAny_of_beginWith {t : Term} {alternatives : List (List Term)}
    (h : BeginWith t alternatives) (some : alternatives ≠ []) :
    widthOfAny alternatives = t.width.plus (widthOfAny (alternatives.map List.tail)) := by
  induction alternatives with
  | nil => exact absurd rfl some
  | cons ts rest ih =>
      obtain ⟨⟨u, more, rfl, same⟩, later⟩ := List.forall_mem_cons.mp h
      have here : widthOf (u :: more) = t.width.plus (widthOf more) := by
        rw [widthOf, width_of_isSame same]
      by_cases last : rest = []
      · subst last
        exact here
      · rw [widthOfAny_cons last, here, ih later last, List.map_cons,
          widthOfAny_cons (fun none => last (List.map_eq_nil_iff.mp none)), Width.plus_either]
        rfl

theorem lateFaultOfAny?_of_beginWith {t : Term} {alternatives : List (List Term)}
    (h : BeginWith t alternatives) (template : Bool) :
    lateFaultOfAny? template (alternatives.map List.tail) =
      lateFaultOfAny? template alternatives := by
  induction alternatives with
  | nil => rfl
  | cons ts rest ih =>
      obtain ⟨⟨u, more, rfl, same⟩, later⟩ := List.forall_mem_cons.mp h
      rw [List.map_cons, List.tail_cons, lateFaultOfAny?, lateFaultOfAny?, lateFaultOf?,
        lateFault?_of_isSame same, ih later]
      rfl

/-- Putting common terms in front changes neither the width nor the late faults. -/
theorem splitCommon_spec (fuel : Nat) (alternatives : List (List Term))
    (several : 2 ≤ alternatives.length) :
    let (common, rest) := splitCommon fuel alternatives
    rest.length = alternatives.length ∧
      (widthOf common).plus (widthOfAny rest) = widthOfAny alternatives ∧
      (∀ template, lateFaultOf? template common = none) ∧
      ∀ template, lateFaultOfAny? template rest = lateFaultOfAny? template alternatives := by
  induction fuel generalizing alternatives with
  | zero =>
      exact ⟨rfl, Width.nothing_plus (isWithin_widthOfAny _), fun _ => rfl, fun _ => rfl⟩
  | succ fuel ih =>
      rw [splitCommon]
      cases found : commonFirst? alternatives with
      | none => exact ⟨rfl, Width.nothing_plus (isWithin_widthOfAny _), fun _ => rfl, fun _ => rfl⟩
      | some t =>
          have all := beginWith_of_commonFirst? found several
          have more : alternatives ≠ [] := by
            rintro rfl
            cases several
          obtain ⟨us, hus⟩ := List.exists_mem_of_ne_nil _ more
          obtain ⟨u, _, rfl, same⟩ := all us hus
          have leaf (template : Bool) : lateFault? template t = none :=
            lateFault?_of_isSame (isSame_symm same) template
          obtain ⟨length, width, common, rest⟩ :=
            ih (alternatives.map List.tail) (by simpa using several)
          refine ⟨by simpa using length, ?_, fun template => ?_, fun template => ?_⟩
          · show ((t.width.plus (widthOf _)).plus _) = _
            rw [Width.plus_assoc, width, widthOfAny_of_beginWith all more]
          · rw [lateFaultOf?, leaf, common]
            rfl
          · rw [rest, lateFaultOfAny?_of_beginWith all]

theorem exists_of_mapM_eq_some {α β : Type} {f : α → Option β} {xs : List α} {ys : List β}
    (h : xs.mapM f = some ys) {x : α} (hx : x ∈ xs) : ∃ y ∈ ys, f x = some y := by
  induction xs generalizing ys with
  | nil => cases hx
  | cons x' rest ih =>
      simp only [List.mapM_cons, Option.bind_eq_bind, Option.bind_eq_some_iff] at h
      obtain ⟨y, here, later, others, made⟩ := h
      obtain rfl := Option.some.inj made
      rcases List.mem_cons.mp hx with rfl | hx
      · exact ⟨y, List.mem_cons_self, here⟩
      · obtain ⟨y', hy', made⟩ := ih others hx
        exact ⟨y', List.mem_cons_of_mem _ hy', made⟩

/-- An alternative that a set can make is one character, which is never a fault. -/
theorem single_of_members? {ts : List Term} {part : List Item × Folding}
    (h : members? ts = some part) : ∃ test, ts = [char test] := by
  unfold members? at h
  split at h
  · exact ⟨_, rfl⟩
  · exact ⟨_, rfl⟩
  · cases h

/-- Alternatives that a set can make take one character. -/
theorem singles_of_asSet? {alternatives : List (List Term)} {t : Term}
    (h : asSet? alternatives = some t) :
    (∃ test, t = char test) ∧ alternatives ≠ [] ∧
      ∀ ts ∈ alternatives, ∃ test, ts = [char test] := by
  simp only [asSet?, Option.bind_eq_bind, Option.bind_eq_some_iff] at h
  obtain ⟨parts, all, ⟨_, f⟩, first, made⟩ := h
  refine ⟨⟨_, (Option.some.inj made).symm⟩, ?_, ?_⟩
  · rintro rfl
    obtain rfl : [] = parts := by simpa using all
    cases first
  · intro ts hts
    obtain ⟨part, -, made⟩ := exists_of_mapM_eq_some all hts
    exact single_of_members? made

theorem widthOfAny_of_singles {alternatives : List (List Term)}
    (h : ∀ ts ∈ alternatives, ∃ test, ts = [char test]) (some : alternatives ≠ []) :
    widthOfAny alternatives = .exactly 1 := by
  induction alternatives with
  | nil => exact absurd rfl some
  | cons ts rest ih =>
      obtain ⟨⟨test, rfl⟩, later⟩ := List.forall_mem_cons.mp h
      by_cases last : rest = []
      · subst last
        rfl
      · rw [widthOfAny_cons last, ih later last]
        rfl

theorem lateFaultOfAny?_of_singles {alternatives : List (List Term)}
    (h : ∀ ts ∈ alternatives, ∃ test, ts = [char test]) (template : Bool) :
    lateFaultOfAny? template alternatives = none := by
  induction alternatives with
  | nil => rfl
  | cons ts rest ih =>
      obtain ⟨⟨test, rfl⟩, later⟩ := List.forall_mem_cons.mp h
      rw [lateFaultOfAny?, ih later]
      rfl

/-- A set in place of a choice between characters changes neither. -/
theorem asSet?_spec (alternatives : List (List Term)) :
    widthOf [(asSet? alternatives).getD (branch alternatives)] = widthOfAny alternatives ∧
      ∀ template, lateFaultOf? template [(asSet? alternatives).getD (branch alternatives)] =
        lateFaultOfAny? template alternatives := by
  cases made : asSet? alternatives with
  | none =>
      refine ⟨?_, fun template => ?_⟩
      · rw [Option.getD_none, widthOf_singleton, width,
          Width.plus_nothing (isWithin_widthOfAny alternatives)]
      · rw [Option.getD_none, lateFaultOf?_singleton, lateFault?]
  | some t =>
      obtain ⟨⟨test, rfl⟩, more, singles⟩ := singles_of_asSet? made
      refine ⟨?_, fun template => ?_⟩
      · rw [Option.getD_some, widthOfAny_of_singles singles more]
        rfl
      · rw [Option.getD_some, lateFaultOfAny?_of_singles singles]
        rfl

/-- **Putting alternatives together** keeps their width and their late faults. -/
theorem either_spec (alternatives : List (List Term)) :
    widthOf (either alternatives) = widthOfAny alternatives ∧
      ∀ template, lateFaultOf? template (either alternatives) =
        lateFaultOfAny? template alternatives := by
  match alternatives with
  | [] => exact ⟨rfl, fun _ => rfl⟩
  | [ts] =>
      refine ⟨rfl, fun template => ?_⟩
      show lateFaultOf? template ts = (lateFaultOf? template ts).orElse fun _ => none
      cases lateFaultOf? template ts <;> rfl
  | ts :: us :: rest =>
      have split := splitCommon_spec ts.length (ts :: us :: rest) (by simp)
      rw [either]
      · rcases separated : splitCommon ts.length (ts :: us :: rest) with ⟨common, left⟩
        rw [separated] at split
        obtain ⟨-, width, noFault, faults⟩ := split
        obtain ⟨width', faults'⟩ := asSet?_spec left
        simp only [List.headD_cons, separated]
        refine ⟨?_, fun template => ?_⟩
        · rw [widthOf_append, width', width]
        · rw [lateFaultOf?_append, noFault, faults', faults]
          rfl
      · rintro _ ⟨⟩

/-! ## Terms that are alike -/

def isAnchor : Term → Bool
  | anchor _ => true
  | _ => false

def isLoop : Term → Bool
  | loop .. => true
  | _ => false

/-- Terms that take as many characters, have the same late faults and can be repeated alike. -/
structure Alike (t u : Term) : Prop where
  width : t.width = u.width
  faults : ∀ template, lateFault? template t = lateFault? template u
  anchor : t.isAnchor = u.isAnchor
  loop : t.isLoop = u.isLoop

/-- Sequences of terms that take as many characters and have the same late faults. -/
structure AlikeAll (ts us : List Term) : Prop where
  width : widthOf ts = widthOf us
  faults : ∀ template, lateFaultOf? template ts = lateFaultOf? template us

theorem Alike.refl (t : Term) : t.Alike t := ⟨rfl, fun _ => rfl, rfl, rfl⟩

theorem Alike.chars (test test' : CharTest) : (char test).Alike (char test') :=
  ⟨rfl, fun _ => rfl, rfl, rfl⟩

theorem Alike.anchors (place place' : Anchor) : (Term.anchor place).Alike (.anchor place') :=
  ⟨rfl, fun _ => rfl, rfl, rfl⟩

theorem AlikeAll.of_forall₂ {ts us : List Term} (h : List.Forall₂ Alike ts us) :
    AlikeAll ts us := by
  induction h with
  | nil => exact ⟨rfl, fun _ => rfl⟩
  | cons here _ ih =>
      refine ⟨?_, fun template => ?_⟩
      · rw [widthOf, widthOf, here.width, ih.width]
      · rw [lateFaultOf?, lateFaultOf?, here.faults, ih.faults]

theorem AlikeAll.unwrapped {ts us : List Term} (h : AlikeAll ts us) :
    AlikeAll (unwrapped ts) (unwrapped us) := by
  refine ⟨?_, fun template => ?_⟩
  · rw [widthOf_unwrapped, widthOf_unwrapped, h.width]
  · rw [lateFaultOf?_unwrapped, lateFaultOf?_unwrapped, h.faults]

theorem Alike.repeated {t u : Term} (h : t.Alike u) : AlikeAll t.repeated u.repeated := by
  refine ⟨?_, fun template => ?_⟩
  · rw [widthOf_repeated, widthOf_repeated, h.width]
  · rw [lateFaultOf?_repeated, lateFaultOf?_repeated, h.faults]

/-- Alternatives that are alike one by one are alike when they are put together. -/
theorem AlikeAll.either {ts us : List (List Term)} (h : List.Forall₂ AlikeAll ts us) :
    AlikeAll (Term.either ts) (Term.either us) := by
  have together : widthOfAny ts = widthOfAny us ∧
      ∀ template, lateFaultOfAny? template ts = lateFaultOfAny? template us := by
    induction h with
    | nil => exact ⟨rfl, fun _ => rfl⟩
    | @cons t u ts us here rest ih =>
        obtain ⟨width, faults⟩ := ih
        refine ⟨?_, fun template => ?_⟩
        · by_cases last : ts = []
          · obtain rfl : us = [] := by
              subst last
              exact List.forall₂_nil_left_iff.mp rest
            subst last
            exact here.width
          · have last' : us ≠ [] := by
              rintro rfl
              exact last (List.forall₂_nil_right_iff.mp rest)
            rw [widthOfAny_cons last, widthOfAny_cons last', here.width, width]
        · rw [lateFaultOfAny?, lateFaultOfAny?, here.faults, faults]
  refine ⟨?_, fun template => ?_⟩
  · rw [(either_spec ts).1, (either_spec us).1, together.1]
  · rw [(either_spec ts).2, (either_spec us).2, together.2]

/-! ## Terms with terms inside -/

theorem AlikeAll.group {ts us : List Term} (h : AlikeAll ts us) (index : Option Nat)
    (isSwitch : Bool) : (Term.group index isSwitch ts).Alike (.group index isSwitch us) := by
  refine ⟨?_, fun template => ?_, rfl, rfl⟩
  · rw [Term.width, Term.width, h.width]
  · rw [lateFault?, lateFault?, h.faults]

theorem AlikeAll.atomic {ts us : List Term} (h : AlikeAll ts us) :
    (Term.atomic ts).Alike (.atomic us) := by
  refine ⟨?_, fun template => ?_, rfl, rfl⟩
  · rw [Term.width, Term.width, h.width]
  · rw [lateFault?, lateFault?, h.faults]

theorem AlikeAll.ahead {ts us : List Term} (h : AlikeAll ts us) (negated : Bool) :
    (Term.ahead negated ts).Alike (.ahead negated us) := by
  refine ⟨rfl, fun template => ?_, rfl, rfl⟩
  rw [lateFault?, lateFault?, h.faults]

theorem AlikeAll.behind {ts us : List Term} (h : AlikeAll ts us) (negated : Bool) :
    (Term.behind negated ts).Alike (.behind negated us) := by
  refine ⟨rfl, fun template => ?_, rfl, rfl⟩
  rw [lateFault?, lateFault?, h.width, h.faults]

theorem AlikeAll.loop {ts us : List Term} (h : AlikeAll ts us) (style : Style) (least : Nat)
    (most : Option Nat) :
    (Term.loop style least most ts).Alike (.loop style least most us) := by
  refine ⟨?_, fun template => ?_, rfl, rfl⟩
  · rw [Term.width, Term.width, h.width]
  · rw [lateFault?, lateFault?, h.faults]

theorem AlikeAll.choose {ts us : List Term} (h : AlikeAll ts us) (index : Nat) :
    (Term.choose index ts none).Alike (.choose index us none) := by
  refine ⟨?_, fun template => ?_, rfl, rfl⟩
  · rw [Term.width, Term.width, h.width]
  · rw [lateFault?, lateFault?, h.faults]

theorem AlikeAll.chooseElse {ts us ts' us' : List Term} (h : AlikeAll ts us)
    (h' : AlikeAll ts' us') (index : Nat) :
    (Term.choose index ts (some ts')).Alike (.choose index us (some us')) := by
  refine ⟨?_, fun template => ?_, rfl, rfl⟩
  · rw [Term.width, Term.width, h.width, h'.width]
  · simp only [lateFault?, h.faults, h'.faults]

end Term

end FormRules.Pattern
