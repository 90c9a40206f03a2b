/-
# Evaluating — what a value can do to compiled rules

A rule that has been accepted can be evaluated on every value that it applies to (`Rule.Applies`).
A rule for single values needs a value that can be written as a text, and `isInt` one that is no
number of more than 4300 digits; a rule for files needs a collection with members that it can use.

A rule string that compiles for a field of single values can be evaluated on every text, as long as
no whole number has to be read that is too long.  Such a number is written with at most a sign and
more than 4300 digits; the first rule `isInt` that meets it fails, and the whole chain with it.

    rule `isInt`   text               outcome
    no             any                result
    yes            no long number     result
    yes            long number        failure, with the count of digits

`run_text` says so for every chain that comes from compiling, and what the result is.

A rule string that compiles for a field of files can be evaluated on nothing and on every collection
of file handles, without any such exception (`run_files`).
-/
import FormRules.Proofs.Predicate.Answers
import FormRules.Proofs.Predicate.Files
import FormRules.Proofs.Predicate.Standard
import FormRules.Proofs.Rule.Chain
import FormRules.Proofs.Rule.Compiling

namespace FormRules

/-- A rule of a registry can use a value. -/
def Rule.Applies (r : Rule) (value : Value) : Shelf → Prop
  | .standard => value.holdsLongInteger = false ∧
      (r.name = StandardRule.isInt.name → ¬ IsLongNumber value.entryText)
  | .file => ∃ rule : FileRule, rule.name = r.name ∧
      ∃ files, FileRule.filesOf value = .ok files ∧ rule.Takes r.params files

namespace Chain

variable {text : String} {r : Rule}

/-- A rule that needs a text to be a whole number. -/
def ReadsNumber (c : Chain) : Prop := ∃ r ∈ c.rules, r.name = StandardRule.isInt.name

instance (c : Chain) : Decidable c.ReadsNumber := inferInstanceAs (Decidable (∃ r ∈ c.rules, _))

/-- A rule that is accepted is a built-in one, and so are its parameters. -/
theorem exists_standard (h : r.Accepted Registries.builtin.standard) :
    ∃ rule : StandardRule, rule.name = r.name ∧ rule.Accepts r.params ∧
      ∀ value, (evaluate Registries.builtin.standard value r).2 =
        (rule.test value r.params).map (invert r) := by
  obtain ⟨_, found, checked⟩ := Rule.accepted_iff.mp h
  obtain ⟨rule, named, rfl⟩ := Registries.find?_standard_eq_some_iff.mp found
  refine ⟨rule, named, StandardRule.accepts_of_checked checked, fun value => ?_⟩
  rw [evaluate, Registry.get, found]
  rfl

theorem exists_file (h : r.Accepted Registries.builtin.file) :
    ∃ rule : FileRule, rule.name = r.name ∧ rule.Accepts r.params ∧
      ∀ value, (evaluate Registries.builtin.file value r).2 =
        (rule.test value r.params).map (invert r) := by
  obtain ⟨_, found, checked⟩ := Rule.accepted_iff.mp h
  obtain ⟨rule, named, rfl⟩ := Registries.find?_file_eq_some_iff.mp found
  refine ⟨rule, named, FileRule.accepts_of_checked checked, fun value => ?_⟩
  rw [evaluate, Registry.get, found]
  rfl

/-! ## Values -/

theorem evaluates_iff_of_tested {registry : Registry} {value : Value} {tested : Outcome Value}
    (h : (evaluate registry value r).2 = tested.map (invert r)) :
    Evaluates registry value r ↔ ∃ answer, tested = .ok answer := by
  rw [Evaluates, h]
  cases tested <;> simp [Except.map]

/-- **An accepted rule can be evaluated on a value exactly if it applies to it.** -/
theorem evaluates_iff {shelf : Shelf} (h : r.Accepted (Registries.builtin.get shelf))
    (value : Value) :
    Evaluates (Registries.builtin.get shelf) value r ↔ r.Applies value shelf := by
  cases shelf with
  | standard =>
      obtain ⟨rule, named, accepts, evaluated⟩ := exists_standard h
      refine (evaluates_iff_of_tested (evaluated value)).trans ?_
      rw [StandardRule.exists_test_iff accepts, Rule.Applies, ← named]
      exact and_congr_right fun _ => imp_congr_left
        ⟨congrArg _, Registries.name_standard_injective⟩
  | file =>
      obtain ⟨rule, named, accepts, evaluated⟩ := exists_file h
      refine (evaluates_iff_of_tested (evaluated value)).trans ?_
      rw [FileRule.exists_test_iff accepts]
      constructor
      · exact fun taken => ⟨rule, named, taken⟩
      · rintro ⟨rule', named', taken⟩
        obtain rfl := Registries.name_file_injective (named'.trans named.symm)
        exact taken

/-- An accepted rule never blames the configuration. -/
theorem blameless_evaluate {shelf : Shelf} (h : r.Accepted (Registries.builtin.get shelf))
    (value : Value) : (evaluate (Registries.builtin.get shelf) value r).2.Blameless := by
  cases shelf with
  | standard =>
      obtain ⟨rule, -, accepts, evaluated⟩ := exists_standard h
      exact (evaluated value).symm ▸
        blameless_map _ (StandardRule.blameless_test accepts value)
  | file =>
      obtain ⟨rule, -, -, evaluated⟩ := exists_file h
      exact (evaluated value).symm ▸
        blameless_map _ (rule.blameless_test value r.params)

/-! ## Texts -/

theorem evaluates_text (h : r.Accepted Registries.builtin.standard)
    (short : r.name = StandardRule.isInt.name → ¬ IsLongNumber text) :
    Evaluates Registries.builtin.standard (.str text) r :=
  (evaluates_iff (show r.Accepted (Registries.builtin.get .standard) from h) _).mpr ⟨rfl, short⟩

theorem evaluate_long (h : r.Accepted Registries.builtin.standard)
    (named : r.name = StandardRule.isInt.name) (long : IsLongNumber text) :
    (evaluate Registries.builtin.standard (.str text) r).2 =
      .error (.numeral (.tooManyDigits (Numeral.digitCount text.toList))) := by
  obtain ⟨rule, named', accepts, evaluated⟩ := exists_standard h
  obtain rfl : rule = .isInt := Registries.name_standard_injective (named'.trans named)
  rw [evaluated, StandardRule.test_str, StandardRule.testText_isInt_of_isLongNumber accepts long]
  rfl

/-- The first rule that cannot be evaluated decides. -/
theorem runFrom_of_error {registry : Registry} {own fallback value : Value}
    {before after : List Rule} {f : Failure}
    (hbefore : ∀ r ∈ before, Evaluates registry value r)
    (failed : (evaluate registry value r).2 = .error f) (result : Value) :
    (runFrom registry own fallback value result (before ++ r :: after)).2 = .error f := by
  induction before generalizing result with
  | nil =>
      rcases evaluated : evaluate registry value r with ⟨calls, outcome⟩
      obtain rfl : outcome = .error f := by simpa [evaluated] using failed
      simp [runFrom, evaluated]
  | cons first rest ih =>
      obtain ⟨⟨this, evaluated⟩, later⟩ := List.forall_mem_cons.mp hbefore
      rw [List.cons_append, runFrom_cons evaluated]
      exact ih later _

theorem exists_first_reader {c : Chain} (h : c.ReadsNumber) :
    ∃ before r after, c.rules = before ++ r :: after ∧ r.name = StandardRule.isInt.name ∧
      ∀ r' ∈ before, r'.name ≠ StandardRule.isInt.name := by
  obtain ⟨r, hr, named⟩ := h
  have found : (c.rules.find? fun r => r.name = StandardRule.isInt.name).isSome = true :=
    List.find?_isSome.mpr ⟨r, hr, decide_eq_true named⟩
  obtain ⟨first, found⟩ := Option.isSome_iff_exists.mp found
  obtain ⟨named, before, after, split, others⟩ := List.find?_eq_some_iff_append.mp found
  exact ⟨before, first, after, split, of_decide_eq_true named, fun r' hr' =>
    of_decide_eq_false (by simpa using others r' hr')⟩

/-- **Compiled rules on a text.**  They give the message of the first failing rule that has one
other than `true`, or `true`; they fail exactly if one of them has to read a whole number of more
digits than can be read. -/
theorem run_text {kind : FieldKind} {rules : String} {c : Chain} (single : kind ≠ .file)
    (compiled : Chain.compile .builtin kind.shelf rules = .ok c) (own fallback : Value)
    (text : String) :
    (c.run .builtin own fallback (.str text)).2 =
      if c.ReadsNumber ∧ IsLongNumber text then
        .error (.numeral (.tooManyDigits (Numeral.digitCount text.toList)))
      else
        .ok ((reported? Registries.builtin.standard own fallback (.str text) c.rules).getD
          (.bool true)) := by
  have shelf : kind.shelf = .standard := by
    cases kind <;> first | rfl | exact absurd rfl single
  obtain ⟨-, atShelf, accepted⟩ := compile_eq_ok_iff.mp compiled
  rw [shelf] at atShelf accepted
  have looked : Registries.builtin.get c.shelf = Registries.builtin.standard := by rw [atShelf]; rfl
  split
  · rename_i h
    obtain ⟨⟨r, hr, named⟩, long⟩ := h
    obtain ⟨before, first, after, split, isFirst, others⟩ := exists_first_reader ⟨r, hr, named⟩
    have hbefore (r : Rule) (hr : r ∈ before) :
        Evaluates (Registries.builtin.get c.shelf) (.str text) r := by
      rw [looked]
      exact evaluates_text (accepted r (by simp [split, hr]))
        fun named => absurd named (others r hr)
    have failed := evaluate_long (accepted first (by simp [split])) isFirst long
    rw [run, split]
    exact runFrom_of_error hbefore (looked ▸ failed) _
  · rename_i h
    have runs : c.Runs .builtin (.str text) := by
      intro r hr
      rw [looked]
      exact evaluates_text (accepted r hr) fun named long => h ⟨⟨r, hr, named⟩, long⟩
    rw [run_eq runs, looked]

/-- The shortest number that is too long. -/
theorem run_ones :
    FieldKind.text ≠ .file ∧
      compile .builtin FieldKind.text.shelf "isInt" = .ok ⟨[⟨"isInt", false, []⟩], .standard⟩ ∧
      (run .builtin .null .null (.str (String.ofList (List.replicate 4301 '1')))
        ⟨[⟨"isInt", false, []⟩], .standard⟩).2 = .error (.numeral (.tooManyDigits 4301)) := by
  have compiled : compile .builtin FieldKind.text.shelf "isInt" =
      .ok ⟨[⟨"isInt", false, []⟩], .standard⟩ := by rfl
  have long : IsLongNumber (String.ofList (List.replicate 4301 '1')) :=
    isLongNumber_ones (by decide)
  have reads : ReadsNumber ⟨[⟨"isInt", false, []⟩], .standard⟩ := ⟨_, List.mem_cons_self, rfl⟩
  refine ⟨by decide, compiled, ?_⟩
  rw [run_text (by decide) compiled, if_pos ⟨reads, long⟩, digitCount_ones]

/-! ## Files -/

/-- An accepted file rule gives a flag on every collection of file handles. -/
theorem evaluate_handles (h : r.Accepted Registries.builtin.file) {value : Value}
    {files : List Value} (found : FileRule.filesOf value = .ok files)
    (handles : ∀ f ∈ files, f.IsHandle) :
    ∃ b, (evaluate Registries.builtin.file value r).2 = .ok (.bool b) := by
  obtain ⟨rule, -, accepts, evaluated⟩ := exists_file h
  obtain ⟨b, tested⟩ := (rule.givesFlag_test value r.params).exists_bool
    ((FileRule.exists_test_iff accepts value).mpr
      ⟨files, found, rule.takes_of_isHandle r.params handles⟩)
  rw [evaluated, tested]
  show ∃ b', Except.ok (invert r (.bool b)) = .ok (.bool b')
  unfold invert
  split
  · exact ⟨!(Value.bool b).truthy, rfl⟩
  · exact ⟨b, rfl⟩

/-- **Compiled rules on file handles.**  Rules that compile for a field of kind `file` give a flag
each on nothing and on every collection of file handles, and together `true` or the message of the
first failing rule that has another one. -/
theorem run_files {rules : String} {c : Chain}
    (compiled : Chain.compile .builtin FieldKind.file.shelf rules = .ok c) (own fallback : Value)
    {value : Value} {files : List Value} (found : FileRule.filesOf value = .ok files)
    (handles : ∀ f ∈ files, f.IsHandle) :
    (∀ r ∈ c.rules, ∃ b, (evaluate (Registries.builtin.get c.shelf) value r).2 = .ok (.bool b)) ∧
      (c.run .builtin own fallback value).2 =
        .ok ((reported? Registries.builtin.file own fallback value c.rules).getD (.bool true)) := by
  obtain ⟨-, atShelf, accepted⟩ := compile_eq_ok_iff.mp compiled
  have looked : Registries.builtin.get c.shelf = Registries.builtin.file := by rw [atShelf]; rfl
  have each : ∀ r ∈ c.rules,
      ∃ b, (evaluate (Registries.builtin.get c.shelf) value r).2 = .ok (.bool b) := by
    intro r hr
    rw [looked]
    exact evaluate_handles (accepted r hr) found handles
  have runs : c.Runs .builtin value := by
    intro r hr
    obtain ⟨b, evaluated⟩ := each r hr
    exact ⟨.bool b, evaluated⟩
  refine ⟨each, ?_⟩
  rw [run_eq runs, looked]

/-- Rules about the number, the size, the types and the names of files. -/
def galleryRules : String :=
  "!isEmpty,isFilesCount:+1,isTotalSize:2mb,isEachFileType:image/*:text,isEachFileExtension:.png"

/-- Those rules, compiled. -/
def galleryChain : Chain :=
  ⟨[⟨"isEmpty", true, []⟩, ⟨"isFilesCount", false, ["+1"]⟩, ⟨"isTotalSize", false, ["2mb"]⟩,
    ⟨"isEachFileType", false, ["image/*", "text"]⟩, ⟨"isEachFileExtension", false, [".png"]⟩],
    .file⟩

/-- A file of negative size whose type is not known. -/
def untypedFile : Value := .file (.str "A.PNG") (.int (-1)) .null

/-- No rule stumbles over a type that is not known, and the one that asks for it fails. -/
theorem run_gallery :
    compile .builtin FieldKind.file.shelf galleryRules = .ok galleryChain ∧
      untypedFile.IsHandle ∧
      (run .builtin (.str "Images only.") .null (.tuple [untypedFile]) galleryChain).2 =
        .ok (.str "Images only.") := by
  have compiled : compile .builtin FieldKind.file.shelf galleryRules = .ok galleryChain := by rfl
  have handle : untypedFile.IsHandle := ⟨"A.PNG", .int (-1), -1, .null, rfl, rfl, .inr rfl⟩
  have handles : ∀ f ∈ [untypedFile], f.IsHandle := List.forall_mem_singleton.mpr handle
  refine ⟨compiled, handle, ?_⟩
  rw [(run_files compiled (.str "Images only.") .null rfl handles).2]
  rfl

end Chain

end FormRules
