/-
# File rules — what the members of a collection can do to them

A file rule with accepted parameters gives a result on every collection, as long as it can use what
it looks at in the members.  A rule that asks something of each member stops at the first one that
does not pass, so only the members up to that one matter.

    rule                          looks at                     which has to be
    a number of files             no member
    isTotalSize                   the sizes of all members     numbers that can be added
    isEachFileSize                a size                       a number
    isEachFileType                a type                       a text, unless it does not count
    isEachFileExtension           a name                       a text

`FileRule.exists_test_iff` is this table.  Collections of file handles, whose parts are of the kinds
that are declared for them, have all that it asks for (`FileRule.takes_of_isHandle`).  A file rule
that does not give a result never blames the configuration for it (`FileRule.blameless_test`).
-/
import FormRules.Proofs.Predicate.Checks

namespace FormRules

namespace FileRule

variable {rule : FileRule} {params : List String} {files : List Value} {v : Value}

/-! ## Accepted parameters -/

/-- What a rule asks of its parameters: their number, and that they can be read. -/
def Accepts : FileRule → List String → Prop
  | isFilesCount, params => ∃ count n, params = [count] ∧ readInteger count = .ok n
  | isTotalSize, params | isEachFileSize, params =>
      ∃ size limit, params = [size] ∧ FileSize.parse size = .ok limit
  | isEachFileType, params | isEachFileExtension, params => params ≠ []
  | _, params => params = []

theorem eq_nil_of_noParams (h : noParams params = .ok ()) : params = [] := by
  have count := (Predicate.Arity.check_eq_ok_iff _ _).mp h
  exact List.length_eq_zero_iff.mp (Nat.le_zero.mp (count.2 0 rfl))

theorem ne_nil_of_atLeastOne (h : atLeastOne params = .ok ()) : params ≠ [] := by
  rintro rfl
  have count := (Predicate.Arity.check_eq_ok_iff _ _).mp h
  exact absurd count.1 (by decide)

/-- Exactly one parameter has been read. -/
theorem exists_of_oneCount (h : oneCount params = .ok ()) :
    ∃ count n, params = [count] ∧ readInteger count = .ok n := by
  obtain ⟨counted, read⟩ := seq_eq_ok_iff.mp h
  obtain ⟨least, most⟩ := (Predicate.Arity.check_eq_ok_iff _ _).mp counted
  obtain ⟨count, rfl⟩ := List.length_eq_one_iff.mp (Nat.le_antisymm (most 1 rfl) least)
  obtain ⟨n, read, -⟩ := bind_eq_ok_iff.mp read
  exact ⟨count, n, rfl, read⟩

theorem exists_of_oneSize (h : oneSize params = .ok ()) :
    ∃ size limit, params = [size] ∧ FileSize.parse size = .ok limit := by
  obtain ⟨counted, read⟩ := seq_eq_ok_iff.mp h
  obtain ⟨least, most⟩ := (Predicate.Arity.check_eq_ok_iff _ _).mp counted
  obtain ⟨size, rfl⟩ := List.length_eq_one_iff.mp (Nat.le_antisymm (most 1 rfl) least)
  obtain ⟨limit, read, -⟩ := bind_eq_ok_iff.mp read
  exact ⟨size, limit, rfl, read⟩

/-- **Parameters that pass the check** are as many as the rule takes, and can be read. -/
theorem accepts_of_checked (h : rule.check params = .ok ()) : rule.Accepts params := by
  cases rule with
  | required | isEmpty | isSingle | isMultiple => exact eq_nil_of_noParams h
  | isFilesCount => exact exists_of_oneCount h
  | isTotalSize | isEachFileSize => exact exists_of_oneSize h
  | isEachFileType | isEachFileExtension => exact ne_nil_of_atLeastOne h

/-! ## Members -/

/-- A rule can use what it looks at in a member. -/
def Suits : FileRule → Value → Prop
  | isTotalSize, f | isEachFileSize, f =>
      ∃ name size type q, f = .file name size type ∧ size.quantity? = some q
  | isEachFileType, f =>
      ∃ name size type, f = .file name size type ∧ (type.isStr = true ∨ type.truthy = false)
  | isEachFileExtension, f => ∃ name size type, f = .file (.str name) size type
  | _, _ => True

/-- The size of a member as a number. -/
def sizeIn (f : Value) : Outcome Value.Quantity := do quantity (← sizeOf f)

theorem exists_sizeIn_iff {f : Value} :
    (∃ q, sizeIn f = .ok q) ↔
      ∃ name size type q, f = .file name size type ∧ size.quantity? = some q := by
  cases f with
  | file name size type =>
      cases h : size.quantity? with
      | none => simp [sizeIn, sizeOf, ok_bind, quantity, h]
      | some q => simp [sizeIn, sizeOf, ok_bind, quantity, h]
  | _ => simp [sizeIn, sizeOf, error_bind]

theorem exists_textOf_iff : (∃ text, textOf v = .ok text) ↔ v.isStr = true := by
  cases v <;> simp [textOf, Value.isStr]

theorem exists_mimeOf_iff :
    (∃ mime, mimeOf v = .ok mime) ↔ v.isStr = true ∨ v.truthy = false := by
  unfold mimeOf
  split
  · rename_i counts
    rw [exists_textOf_iff, counts]
    simp
  · rename_i vain
    exact iff_of_true ⟨"", rfl⟩ (.inr (Bool.eq_false_iff.mpr vain))

theorem exists_fitsOneOf_iff (some : params ≠ []) {f : Value} :
    (∃ answer, fitsOneOf params f = .ok answer) ↔ isEachFileType.Suits f := by
  have read : (∃ answer, fitsOneOf params f = .ok answer) ↔
      ∃ type, typeOf f = .ok type ∧ ∃ mime, mimeOf type = .ok mime := by
    unfold fitsOneOf
    split
    · exact absurd rfl some
    · simp only [bind_eq_ok_iff, pure_eq_ok_iff]
      exact ⟨fun ⟨_, type, typed, mime, text, _⟩ => ⟨type, typed, mime, text⟩,
        fun ⟨type, typed, mime, text⟩ => ⟨_, type, typed, mime, text, rfl⟩⟩
  rw [read]
  cases f with
  | file name size type => simp [typeOf, exists_mimeOf_iff, Suits]
  | _ => simp [typeOf, Suits]

theorem exists_hasExtension_iff (allowed : List (List Char)) {f : Value} :
    (∃ answer, hasExtension allowed f = .ok answer) ↔ isEachFileExtension.Suits f := by
  cases f with
  | file name size type =>
      cases name <;>
        simp [hasExtension, nameOf, ok_bind, error_bind, textOf, Suits, pure, Except.pure]
  | _ => simp [hasExtension, nameOf, error_bind, Suits]

/-! ## All members in turn -/

/-- A test passes a member: it gives an answer that counts. -/
def Passes (test : Value → Outcome Value) (f : Value) : Prop :=
  ∃ answer, test f = .ok answer ∧ answer.truthy = true

/-- A test of all members gives a result exactly if it does so on each member up to the first one
that does not pass. -/
theorem exists_allPass_iff {test : Value → Outcome Value} :
    (∃ answer, allPass test files = .ok answer) ↔ ∀ before f after, files = before ++ f :: after →
      (∀ g ∈ before, Passes test g) → ∃ answer, test f = .ok answer := by
  induction files with
  | nil => simp [allPass]
  | cons first rest ih =>
      cases here : test first with
      | error e =>
          rw [allPass, here, error_bind]
          refine iff_of_false (by simp) fun all => ?_
          obtain ⟨answer, answered⟩ := all [] first rest rfl (by simp)
          cases here.symm.trans answered
      | ok answer =>
          rw [allPass, here, ok_bind]
          by_cases counts : answer.truthy = true
          · rw [if_pos counts, ih]
            constructor
            · intro later before f after split passed
              cases before with
              | nil => exact ⟨answer, (List.cons.inj split).1 ▸ here⟩
              | cons g before =>
                  obtain ⟨rfl, rest⟩ := List.cons.inj split
                  exact later before f after rest fun g hg => passed g (List.mem_cons_of_mem _ hg)
            · intro all before f after split passed
              exact all (first :: before) f after (by rw [split]; rfl)
                (List.forall_mem_cons.mpr ⟨⟨answer, here, counts⟩, passed⟩)
          · rw [if_neg counts]
            refine iff_of_true ⟨_, rfl⟩ fun before f after split passed => ?_
            cases before with
            | nil => exact ⟨answer, (List.cons.inj split).1 ▸ here⟩
            | cons g before =>
                obtain rfl := (List.cons.inj split).1
                obtain ⟨answer', answered, counts'⟩ := passed first List.mem_cons_self
                obtain rfl := Except.ok.inj (here.symm.trans answered)
                exact absurd counts' counts

/-! ## The sum of sizes -/

/-- Adding up sizes comes to a whole number beyond all binary ones and a fraction. -/
def SumOverflows (start : Value.Quantity) (files : List Value) : Prop :=
  ∃ before f after sum q, files = before ++ f :: after ∧ totalSize start before = .ok sum ∧
    sizeIn f = .ok q ∧ addSizes sum q = .error .integerTooLarge

theorem addSizes_cases (p q : Value.Quantity) :
    (∃ total, addSizes p q = .ok total) ∨ addSizes p q = .error .integerTooLarge := by
  have nearest (n : Int) :
      (∃ x, nearestBinary n = .ok x) ∨ nearestBinary n = .error .integerTooLarge := by
    unfold nearestBinary
    split
    · exact .inr rfl
    · exact .inl ⟨_, rfl⟩
  cases p with
  | whole m =>
      cases q with
      | whole n => exact .inl ⟨_, rfl⟩
      | binary y =>
          rcases nearest m with ⟨x, read⟩ | beyond
          · exact .inl ⟨_, by rw [addSizes, read]; rfl⟩
          · exact .inr (by rw [addSizes, beyond]; rfl)
  | binary x =>
      cases q with
      | whole n =>
          rcases nearest n with ⟨y, read⟩ | beyond
          · exact .inl ⟨_, by rw [addSizes, read]; rfl⟩
          · exact .inr (by rw [addSizes, beyond]; rfl)
      | binary y => exact .inl ⟨_, rfl⟩

theorem totalSize_cons {start total q : Value.Quantity} {f : Value} (read : sizeIn f = .ok q)
    (added : addSizes start q = .ok total) (rest : List Value) :
    totalSize start (f :: rest) = totalSize total rest := by
  obtain ⟨size, sized, number⟩ := bind_eq_ok_iff.mp read
  rw [totalSize, sized, ok_bind, number, ok_bind, added, ok_bind]

theorem sumOverflows_cons {start total q : Value.Quantity} {f : Value} (read : sizeIn f = .ok q)
    (added : addSizes start q = .ok total) {rest : List Value} :
    SumOverflows start (f :: rest) ↔ SumOverflows total rest := by
  constructor
  · rintro ⟨before, g, after, sum, q', split, summed, size, beyond⟩
    cases before with
    | nil =>
        obtain rfl := (List.cons.inj split).1
        obtain rfl := Except.ok.inj summed
        obtain rfl := Except.ok.inj (read.symm.trans size)
        cases added.symm.trans beyond
    | cons f' before =>
        obtain ⟨rfl, later⟩ := List.cons.inj split
        rw [totalSize_cons read added] at summed
        exact ⟨before, g, after, sum, q', later, summed, size, beyond⟩
  · rintro ⟨before, g, after, sum, q', rfl, summed, size, beyond⟩
    refine ⟨f :: before, g, after, sum, q', rfl, ?_, size, beyond⟩
    rwa [totalSize_cons read added]

/-- Sizes can be added up if all of them are numbers, and no sum is beyond what can be added to. -/
theorem exists_totalSize_iff {start : Value.Quantity} :
    (∃ total, totalSize start files = .ok total) ↔
      (∀ f ∈ files, isTotalSize.Suits f) ∧ ¬ SumOverflows start files := by
  induction files generalizing start with
  | nil => simp [totalSize, SumOverflows]
  | cons f rest ih =>
      cases read : sizeIn f with
      | error e =>
          have unsuited : ¬ isTotalSize.Suits f := fun h => by
            obtain ⟨q, sized⟩ := exists_sizeIn_iff.mpr h
            cases read.symm.trans sized
          refine iff_of_false ?_ fun h => unsuited (h.1 f List.mem_cons_self)
          rintro ⟨total, summed⟩
          rw [totalSize] at summed
          obtain ⟨size, sized, summed⟩ := bind_eq_ok_iff.mp summed
          obtain ⟨q, number, -⟩ := bind_eq_ok_iff.mp summed
          cases read.symm.trans (bind_eq_ok_iff.mpr ⟨size, sized, number⟩)
      | ok q =>
          have suited : isTotalSize.Suits f := exists_sizeIn_iff.mp ⟨q, read⟩
          rcases addSizes_cases start q with ⟨total, added⟩ | beyond
          · rw [totalSize_cons read added, ih, sumOverflows_cons read added, List.forall_mem_cons]
            exact ⟨fun ⟨h, h'⟩ => ⟨⟨suited, h⟩, h'⟩, fun ⟨⟨_, h⟩, h'⟩ => ⟨h, h'⟩⟩
          · refine iff_of_false ?_ fun h => h.2 ⟨[], f, rest, start, q, rfl, rfl, read, beyond⟩
            rintro ⟨total, summed⟩
            obtain ⟨size, sized, number⟩ := bind_eq_ok_iff.mp read
            rw [totalSize, sized, ok_bind, number, ok_bind, beyond] at summed
            cases summed

/-! ## Whole rules -/

/-- A collection that a rule can be applied to: it can use what it looks at, in all members up to the
first one that does not pass by itself. -/
def Takes (rule : FileRule) (params : List String) (files : List Value) : Prop :=
  match rule with
  | isTotalSize => (∀ f ∈ files, isTotalSize.Suits f) ∧ ¬ SumOverflows (.whole 0) files
  | rule => ∀ before f after, files = before ++ f :: after →
      (∀ g ∈ before, rule.test (.tuple [g]) params = .ok (.bool true)) → rule.Suits f

/-- A member passes a test exactly if it does so alone. -/
theorem allPass_single {test : Value → Outcome Value} {f : Value} :
    allPass test [f] = .ok (.bool true) ↔ Passes test f := by
  rw [allPass, bind_eq_ok_iff]
  refine exists_congr fun answer => and_congr_right fun _ => ?_
  split
  · rename_i counts
    exact iff_of_true rfl counts
  · rename_i vain
    exact iff_of_false nofun vain

theorem exists_test_of_found (accepts : rule.Accepts params) (found : filesOf v = .ok files) :
    (∃ answer, rule.test v params = .ok answer) ↔ rule.Takes params files := by
  have alone (f : Value) : filesOf (.tuple [f]) = .ok [f] := rfl
  cases rule with
  | required | isEmpty | isSingle | isMultiple =>
      obtain rfl : params = [] := accepts
      exact iff_of_true ⟨_, by rw [test, testCount, found]; rfl⟩ fun _ _ _ _ _ => trivial
  | isFilesCount =>
      obtain ⟨count, n, rfl, read⟩ := accepts
      exact iff_of_true ⟨_, by rw [test, found, ok_bind, read]; rfl⟩ fun _ _ _ _ _ => trivial
  | isTotalSize =>
      obtain ⟨size, limit, rfl, read⟩ := accepts
      rw [Takes, ← exists_totalSize_iff, test, found, ok_bind, read]
      constructor
      · rintro ⟨answer, answered⟩
        obtain ⟨total, summed, -⟩ := bind_eq_ok_iff.mp answered
        exact ⟨total, summed⟩
      · rintro ⟨total, summed⟩
        exact ⟨.bool (atMost total limit), by rw [summed]; rfl⟩
  | isEachFileSize =>
      obtain ⟨size, limit, rfl, read⟩ := accepts
      have sized (f : Value) :
          (∃ answer, (do return .bool (atMost (← quantity (← sizeOf f)) limit) : Outcome Value) =
            .ok answer) ↔ isEachFileSize.Suits f := by
        refine Iff.trans ?_ (exists_sizeIn_iff (f := f))
        simp only [sizeIn, bind_eq_ok_iff, pure_eq_ok_iff]
        exact ⟨fun ⟨_, size, sized, q, number, _⟩ => ⟨q, size, sized, number⟩,
          fun ⟨q, size, sized, number⟩ => ⟨_, size, sized, q, number, rfl⟩⟩
      simp only [Takes, test, found, alone, read, ok_bind, allPass_single, exists_allPass_iff, sized]
  | isEachFileType =>
      have typed (f : Value) := exists_fitsOneOf_iff accepts (f := f)
      simp only [Takes, test, found, alone, ok_bind, allPass_single, exists_allPass_iff, typed]
  | isEachFileExtension =>
      simp only [Takes, test, found, alone, ok_bind, allPass_single, exists_allPass_iff,
        exists_hasExtension_iff]

theorem not_exists_test_of_error {f : Failure} (accepts : rule.Accepts params)
    (none : filesOf v = .error f) : ¬ ∃ answer, rule.test v params = .ok answer := by
  have nothing {g : List Value → Outcome Value} : ¬ ∃ answer, filesOf v >>= g = .ok answer := by
    rw [none, error_bind]
    exact nofun
  cases rule with
  | required | isEmpty | isSingle | isMultiple =>
      obtain rfl : params = [] := accepts
      exact nothing
  | isFilesCount =>
      obtain ⟨count, n, rfl, read⟩ := accepts
      exact nothing
  | isTotalSize =>
      obtain ⟨size, limit, rfl, read⟩ := accepts
      exact nothing
  | isEachFileSize =>
      obtain ⟨size, limit, rfl, read⟩ := accepts
      rw [test, read, ok_bind]
      exact nothing
  | isEachFileType | isEachFileExtension => exact nothing

/-- **When a file rule gives a result**: on a collection that it can be applied to. -/
theorem exists_test_iff (accepts : rule.Accepts params) (v : Value) :
    (∃ answer, rule.test v params = .ok answer) ↔
      ∃ files, filesOf v = .ok files ∧ rule.Takes params files := by
  cases found : filesOf v with
  | error f => exact iff_of_false (not_exists_test_of_error accepts found) nofun
  | ok files =>
      rw [exists_test_of_found accepts found]
      simp only [Except.ok.injEq, exists_eq_left']

end FileRule

/-! ## File handles

A view hands over files whose parts are of the kinds that are declared for them.  No file rule can
fail on those. -/

/-- A file with a text for a name, a whole number for a size, and for a type a text or nothing. -/
def Value.IsHandle (v : Value) : Prop :=
  ∃ name size n type, v = .file (.str name) size type ∧ size.quantity? = some (.whole n) ∧
    (type.isStr = true ∨ type = .null)

namespace FileRule

variable {params : List String} {files : List Value}

theorem suits_of_isHandle (rule : FileRule) {f : Value} (h : f.IsHandle) : rule.Suits f := by
  obtain ⟨name, size, n, type, rfl, whole, typed⟩ := h
  cases rule with
  | required | isEmpty | isSingle | isMultiple | isFilesCount => exact trivial
  | isTotalSize | isEachFileSize => exact ⟨.str name, size, type, .whole n, rfl, whole⟩
  | isEachFileExtension => exact ⟨name, size, type, rfl⟩
  | isEachFileType =>
      refine ⟨.str name, size, type, rfl, ?_⟩
      rcases typed with text | rfl
      · exact .inl text
      · exact .inr rfl

/-- Whole sizes come to a whole total, and whole numbers of any size can be added. -/
theorem exists_totalSize_whole (h : ∀ f ∈ files, f.IsHandle) (start : Int) :
    ∃ total, totalSize (.whole start) files = .ok (.whole total) := by
  induction files generalizing start with
  | nil => exact ⟨start, rfl⟩
  | cons f rest ih =>
      obtain ⟨⟨name, size, n, type, rfl, whole, -⟩, later⟩ := List.forall_mem_cons.mp h
      have read : sizeIn (.file (.str name) size type) = .ok (.whole n) := by
        show quantity size = .ok (.whole n)
        rw [quantity, whole]
      have added : addSizes (.whole start) (.whole n) = .ok (.whole (start + n)) := rfl
      rw [totalSize_cons read added]
      exact ih later (start + n)

/-- A file rule can be applied to all collections of file handles. -/
theorem takes_of_isHandle (rule : FileRule) (params : List String)
    (h : ∀ f ∈ files, f.IsHandle) : rule.Takes params files := by
  have suited : ∀ before f after, files = before ++ f :: after → rule.Suits f := by
    intro before f after split
    exact suits_of_isHandle rule (h f (split ▸ List.mem_append_right _ List.mem_cons_self))
  cases rule with
  | isTotalSize =>
      obtain ⟨total, summed⟩ := exists_totalSize_whole h 0
      exact exists_totalSize_iff.mp ⟨_, summed⟩
  | required | isEmpty | isSingle | isMultiple | isFilesCount | isEachFileSize | isEachFileType
  | isEachFileExtension => exact fun before f after split _ => suited before f after split

end FileRule

/-! ## Failures -/

theorem Value.blameless_members (v : Value) : v.members.Blameless := by
  unfold members
  split
  · exact blameless_ok _
  · exact blameless_error nofun

theorem FileSize.blameless_toInteger (x : Binary64) : (toInteger x).Blameless := by
  unfold toInteger
  split
  · exact blameless_ok _
  · split <;> exact blameless_error nofun

theorem FileSize.blameless_parse (text : String) : (parse text).Blameless := by
  unfold parse
  split
  · exact blameless_error nofun
  · exact blameless_bind blameless_numeral fun x => blameless_toInteger _

namespace FileRule

theorem blameless_filesOf (v : Value) : (filesOf v).Blameless := by
  unfold filesOf
  split
  · exact blameless_ok []
  · exact v.blameless_members

theorem blameless_sizeIn (f : Value) : (sizeIn f).Blameless := by
  have sized : (sizeOf f).Blameless := by
    cases f <;> first | exact blameless_ok _ | exact blameless_error nofun
  refine blameless_bind sized fun size => ?_
  unfold quantity
  split
  · exact blameless_ok _
  · exact blameless_error nofun

theorem blameless_textOf (v : Value) : (textOf v).Blameless := by
  cases v <;> first | exact blameless_ok _ | exact blameless_error nofun

theorem blameless_fitsOneOf (patterns : List String) (f : Value) :
    (fitsOneOf patterns f).Blameless := by
  have typed : (typeOf f).Blameless := by
    cases f <;> first | exact blameless_ok _ | exact blameless_error nofun
  have text (type : Value) : (mimeOf type).Blameless := by
    unfold mimeOf
    split
    · exact blameless_textOf type
    · exact blameless_ok ""
  unfold fitsOneOf
  split
  · exact blameless_ok (Value.bool false)
  · exact blameless_bind typed fun type => blameless_bind (text type) fun mime => blameless_ok _

theorem blameless_hasExtension (allowed : List (List Char)) (f : Value) :
    (hasExtension allowed f).Blameless := by
  have named : (nameOf f).Blameless := by
    cases f <;> first | exact blameless_ok _ | exact blameless_error nofun
  exact blameless_bind named fun name => blameless_bind (blameless_textOf name) fun text =>
    blameless_ok _

theorem blameless_allPass {test : Value → Outcome Value} (h : ∀ f, (test f).Blameless)
    (files : List Value) : (allPass test files).Blameless := by
  induction files with
  | nil => exact blameless_ok (Value.bool true)
  | cons f rest ih =>
      refine blameless_bind (h f) fun answer => ?_
      split
      · exact ih
      · exact blameless_ok (Value.bool false)

theorem blameless_totalSize (start : Value.Quantity) (files : List Value) :
    (totalSize start files).Blameless := by
  induction files generalizing start with
  | nil => exact blameless_ok start
  | cons f rest ih =>
      have added (q : Value.Quantity) : (addSizes start q).Blameless := by
        rcases addSizes_cases start q with ⟨total, sum⟩ | beyond
        · rw [sum]
          exact blameless_ok total
        · rw [beyond]
          exact blameless_error nofun
      have first : totalSize start (f :: rest) =
          sizeIn f >>= fun q => addSizes start q >>= fun total => totalSize total rest := by
        rw [totalSize, sizeIn, bind_assoc]
      rw [first]
      exact blameless_bind (blameless_sizeIn f) fun q => blameless_bind (added q) fun total =>
        ih total

/-- A file rule never blames the configuration. -/
theorem blameless_test (rule : FileRule) (v : Value) (params : List String) :
    (rule.test v params).Blameless := by
  have found := blameless_filesOf v
  unfold test
  split
  · exact blameless_bind found fun files => blameless_ok _
  · exact blameless_bind found fun files => blameless_ok _
  · exact blameless_bind found fun files => blameless_ok _
  · exact blameless_bind found fun files => blameless_ok _
  · exact blameless_bind found fun files => blameless_bind blameless_numeral fun n =>
      blameless_ok _
  · exact blameless_bind found fun files =>
      blameless_bind (blameless_totalSize _ files) fun total =>
      blameless_bind (FileSize.blameless_parse _) fun limit => blameless_ok _
  · refine blameless_bind (FileSize.blameless_parse _) fun limit =>
      blameless_bind found fun files => blameless_allPass (fun f => ?_) files
    have sized := blameless_bind (blameless_sizeIn f) fun q =>
      blameless_ok (Value.bool (atMost q limit))
    rwa [sizeIn, bind_assoc] at sized
  · exact blameless_bind found fun files => blameless_allPass (blameless_fitsOneOf _) files
  · exact blameless_bind found fun files => blameless_allPass (blameless_hasExtension _) files
  · exact blameless_error nofun

end FileRule

end FormRules
