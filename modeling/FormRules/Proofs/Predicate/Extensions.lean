/-
# Extensions — which file names have an allowed one

The extension of a file name is what stands behind its last dot, so it never holds a dot itself.  An
allowed extension may be written with a dot in front, which does not count, and with dots inside,
which do.  Both are compared in lower case:

    allowed         names with that extension
    png  .PNG       those that end in `.png`, in any case
    tar.gz          none, since what stands behind the last dot is `gz`

`Admits` says when a name has an allowed extension, and `isEachFileExtension_exact` that the rule
asks for exactly this of each file.
-/
import FormRules.Predicate.Files
import FormRules.Proofs.Outcome
import FormRules.Proofs.Text.Case
import FormRules.Proofs.Text.Cutting

namespace FormRules.FileRule

/-! ## Names and extensions -/

/-- A text of plain characters. -/
def IsAscii (text : String) : Prop := ∀ c ∈ text.toList, c.toNat < 128

/-- A file with a text for a name. -/
def IsNamed (f : Value) (name : String) : Prop := ∃ size type, f = .file (.str name) size type

/-- An allowed extension without the dots in front. -/
def bare (ext : String) : List Char := ext.toList.dropWhile (· == '.')

/-- A name ends in a dot and an extension, in any case. -/
def EndsIn (name : String) (ext : List Char) : Prop :=
  ('.' :: ext).map Char.toLower <:+ name.toList.map Char.toLower

/-- A name has an allowed extension: it ends in that, which holds no further dot. -/
def Admits (ext name : String) : Prop := '.' ∉ bare ext ∧ EndsIn name (bare ext)

instance (text : String) : Decidable (IsAscii text) := List.decidableBAll _ text.toList

instance (name : String) (ext : List Char) : Decidable (EndsIn name ext) :=
  inferInstanceAs (Decidable (_ <:+ _))

instance (ext name : String) : Decidable (Admits ext name) :=
  inferInstanceAs (Decidable (_ ∧ _))

/-! ## Lower case -/

theorem dot_mem_map_toLower {s : List Char} : '.' ∈ s.map Char.toLower ↔ '.' ∈ s := by
  rw [List.mem_map]
  constructor
  · rintro ⟨c, hc, lower⟩
    exact (Unicode.toLower_eq_iff (by decide)).mp lower ▸ hc
  · intro hdot
    exact ⟨'.', hdot, rfl⟩

/-- Dots in front are taken off before or after the case is changed. -/
theorem dropWhile_map_toLower (s : List Char) :
    (s.map Char.toLower).dropWhile (· == '.') = (s.dropWhile (· == '.')).map Char.toLower := by
  have same : ((· == '.') ∘ Char.toLower) = (· == '.') := by
    funext c
    rw [Function.comp, Bool.eq_iff_iff, beq_iff_eq, beq_iff_eq, Unicode.toLower_eq_iff (by decide)]
  rw [List.dropWhile_map, same]

theorem allowedExtension_of_isAscii {ext : String} (h : IsAscii ext) :
    allowedExtension ext = (bare ext).map Char.toLower := by
  rw [allowedExtension, Unicode.lower_of_ascii h, dropWhile_map_toLower, bare]

/-! ## One name -/

/-- A name without a dot ends in no extension. -/
theorem not_endsIn {name : String} (h : '.' ∉ name.toList) (ext : List Char) :
    ¬ EndsIn name ext := by
  intro ends
  have dot : '.' ∈ ('.' :: ext).map Char.toLower := List.mem_cons_self
  exact h (dot_mem_map_toLower.mp (ends.subset dot))

/-- A name ends in a dot and a text without any exactly if that text stands behind its last dot. -/
theorem endsIn_iff {name : String} {front back : List Char}
    (whole : name.toList = front ++ '.' :: back) (free : '.' ∉ back) {ext : List Char}
    (none : '.' ∉ ext) : EndsIn name ext ↔ back.map Char.toLower = ext.map Char.toLower := by
  have lowered : name.toList.map Char.toLower =
      front.map Char.toLower ++ '.' :: back.map Char.toLower := by
    rw [whole, List.map_append, List.map_cons]
    rfl
  constructor
  · rintro ⟨start, ends⟩
    rw [lowered] at ends
    exact (Text.eq_of_append_eq (mt dot_mem_map_toLower.mp none)
      (mt dot_mem_map_toLower.mp free) ends).symm
  · intro same
    refine ⟨front.map Char.toLower, ?_⟩
    rw [lowered, same]
    rfl

/-- The extension of a plain name in lower case. -/
theorem extensionOf_eq_iff {name : String} (h : IsAscii name) {ext : List Char} (some : ext ≠ []) :
    extensionOf name.toList = ext.map Char.toLower ↔ '.' ∉ ext ∧ EndsIn name ext := by
  by_cases dotted : '.' ∈ name.toList
  · cases cut : Text.cutLast '.' name.toList with
    | mk front back =>
        obtain ⟨free, whole⟩ := (Text.cutLast_eq_iff dotted).mp cut
        have plain : ∀ c ∈ back, c.toNat < 128 := by
          intro c hc
          exact h c (whole ▸ List.mem_append_right _ (List.mem_cons_of_mem _ hc))
        have behind : extensionOf name.toList = back.map Char.toLower := by
          rw [extensionOf, whole, Text.afterLast?_append free]
          exact Unicode.lower_of_ascii plain
        rw [behind]
        constructor
        · intro same
          have none : '.' ∉ ext := by
            rw [← dot_mem_map_toLower, ← same, dot_mem_map_toLower]
            exact free
          exact ⟨none, (endsIn_iff whole free none).mpr same⟩
        · rintro ⟨none, ends⟩
          exact (endsIn_iff whole free none).mp ends
  · rw [extensionOf, Text.afterLast?_of_not_mem dotted]
    constructor
    · intro empty
      exact absurd (List.map_eq_nil_iff.mp empty.symm) some
    · rintro ⟨-, ends⟩
      exact absurd ends (not_endsIn dotted ext)

/-- The test of one file. -/
theorem hasExtension_of_isNamed {f : Value} {name : String} (hf : IsNamed f name)
    (hname : IsAscii name) {exts : List String}
    (hexts : ∀ ext ∈ exts, IsAscii ext ∧ bare ext ≠ []) :
    ∃ b, hasExtension (exts.map allowedExtension) f = .ok (.bool b) ∧
      (b = true ↔ ∃ ext ∈ exts, Admits ext name) := by
  obtain ⟨size, type, rfl⟩ := hf
  refine ⟨_, rfl, ?_⟩
  rw [List.contains_iff_mem, List.mem_map]
  refine exists_congr fun ext => and_congr_right fun hext => ?_
  obtain ⟨plain, some⟩ := hexts ext hext
  rw [allowedExtension_of_isAscii plain, eq_comm]
  exact extensionOf_eq_iff hname some

/-! ## All names -/

/-- Where every test gives a flag, all pass if each does. -/
theorem allPass_of_decided {test : Value → Outcome Value} {P : Value → Prop} {files : List Value}
    (h : ∀ f ∈ files, ∃ b, test f = .ok (.bool b) ∧ (b = true ↔ P f)) :
    ∃ b, allPass test files = .ok (.bool b) ∧ (b = true ↔ ∀ f ∈ files, P f) := by
  induction files with
  | nil => exact ⟨true, rfl, by simp⟩
  | cons f rest ih =>
      obtain ⟨⟨b, here, passes⟩, later⟩ := List.forall_mem_cons.mp h
      obtain ⟨b', there, pass⟩ := ih later
      rw [allPass, here, ok_bind, List.forall_mem_cons, ← passes, ← pass]
      cases b with
      | true => exact ⟨b', there, by simp⟩
      | false => exact ⟨false, rfl, by simp⟩

/-- **Allowed extensions.**  The rule accepts files with plain names exactly if each name ends, in
any case, in a dot and one of the extensions, which must hold no further dot.  A dot in front of an
extension does not count, and behind it there has to be something. -/
theorem isEachFileExtension_exact {v : Value} {files : List Value} {exts : List String}
    (found : filesOf v = .ok files)
    (named : ∀ f ∈ files, ∃ name, IsNamed f name ∧ IsAscii name)
    (hexts : ∀ ext ∈ exts, IsAscii ext ∧ bare ext ≠ []) :
    ∃ b, isEachFileExtension.test v exts = .ok (.bool b) ∧
      (b = true ↔ ∀ f ∈ files, ∃ name, IsNamed f name ∧ ∃ ext ∈ exts, Admits ext name) := by
  rw [test, found, ok_bind]
  refine allPass_of_decided fun f hf => ?_
  obtain ⟨name, hname, plain⟩ := named f hf
  obtain ⟨b, tested, passes⟩ := hasExtension_of_isNamed hname plain hexts
  refine ⟨b, tested, passes.trans ⟨fun some => ⟨name, hname, some⟩, ?_⟩⟩
  rintro ⟨name', ⟨size, type, rfl⟩, some⟩
  obtain ⟨size', type', same⟩ := hname
  cases same
  exact some

def fileNamed (name : String) : Value := .file (.str name) (.int 1) (.str "")

/-- A collection of files with given names. -/
def filesNamed (names : List String) : Value := .list (names.map fileNamed)

/-- Neither letter case counts nor a dot in front of the extension. -/
theorem isEachFileExtension_of_photos :
    filesOf (filesNamed ["Photo.PNG", "b.tar.gz"]) =
        .ok (["Photo.PNG", "b.tar.gz"].map fileNamed) ∧
      (∀ f ∈ ["Photo.PNG", "b.tar.gz"].map fileNamed, ∃ name, IsNamed f name ∧ IsAscii name) ∧
      (∀ ext ∈ [".png", "gz"], IsAscii ext ∧ bare ext ≠ []) ∧
      isEachFileExtension.test (filesNamed ["Photo.PNG", "b.tar.gz"]) [".png", "gz"] =
        .ok (.bool true) := by
  have plain : ∀ name ∈ ["Photo.PNG", "b.tar.gz"], IsAscii name := by decide
  have named : ∀ f ∈ ["Photo.PNG", "b.tar.gz"].map fileNamed,
      ∃ name, IsNamed f name ∧ IsAscii name :=
    List.forall_mem_map.mpr fun name hname => ⟨name, ⟨_, _, rfl⟩, plain name hname⟩
  have hexts : ∀ ext ∈ [".png", "gz"], IsAscii ext ∧ bare ext ≠ [] := by decide
  have admitted : ∀ name ∈ ["Photo.PNG", "b.tar.gz"], ∃ ext ∈ [".png", "gz"], Admits ext name := by
    decide
  obtain ⟨b, tested, passes⟩ :=
    isEachFileExtension_exact (v := filesNamed ["Photo.PNG", "b.tar.gz"]) rfl named hexts
  obtain rfl : b = true := passes.mpr
    (List.forall_mem_map.mpr fun name hname => ⟨name, ⟨_, _, rfl⟩, admitted name hname⟩)
  exact ⟨rfl, named, hexts, tested⟩

/-- A name that ends in an extension with a dot inside is turned away all the same. -/
theorem isEachFileExtension_of_inner_dot :
    ¬ (isEachFileExtension.test (filesNamed ["a.tar.gz"]) ["tar.gz"] = .ok (.bool true) ↔
      ∀ name ∈ ["a.tar.gz"], ∃ ext ∈ ["tar.gz"], EndsIn name ext.toList) := by
  intro claimed
  have tested : isEachFileExtension.test (filesNamed ["a.tar.gz"]) ["tar.gz"] = .ok (.bool false) :=
    by rfl
  have ends : ∀ name ∈ ["a.tar.gz"], ∃ ext ∈ ["tar.gz"], EndsIn name ext.toList := by decide
  cases tested.symm.trans (claimed.mpr ends)

end FormRules.FileRule
