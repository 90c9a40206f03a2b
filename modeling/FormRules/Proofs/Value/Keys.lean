/-
# Keys — when an update of a table leaves other entries alone

Looking up compares values by `Value.same`, which is coarser than equality: `true`, `1` and `1.0`
are one key, and so are two moments at one instant.  On values that may be keys it is an
equivalence, because it compares what `Value.keyForm` keeps of a value:

    flags and numbers                 their size, as a rational number or an infinity
    moments that know their offset    the instant
    tuples and files                  the forms of their parts
    anything else                     the value itself

`same_iff_keyForm` says so, and asks of one side only that it may be a key.  From it follows that
an entry put under one key is not found under another (`Table.find?_put_of_not_same`).
-/
import FormRules.Proofs.Value.Equality
import Mathlib.Algebra.Field.Rat
import Mathlib.Algebra.Order.Ring.Rat

namespace FormRules

/-! ## Sizes of numbers -/

/-- The size of a number: an infinity by its sign, or a rational number. -/
abbrev Size := Bool ⊕ ℚ

namespace Binary64

/-- The size of a binary number, unless it is no number. -/
def size? : Binary64 → Option Size
  | .finite s m e =>
      let (n, d) := signedRatio s m e
      some (.inr (n / d))
  | .infinite s => some (.inl s)
  | .nan => none

theorem signedRatio_pos (s : Bool) (m : Nat) (e : Int) : 0 < (signedRatio s m e).2 := by
  show 0 < (ratio m e).2
  unfold ratio
  split
  · exact Nat.one_pos
  · exact Nat.two_pow_pos _

/-- Quotients are compared crosswise. -/
theorem compare_cross_eq {a c : Int} {b d : Nat} (hb : 0 < b) (hd : 0 < d) :
    compare (a * d) (c * b) = .eq ↔ (a / b : ℚ) = c / d := by
  have hb' : (b : ℚ) ≠ 0 := Nat.cast_ne_zero.mpr hb.ne'
  have hd' : (d : ℚ) ≠ 0 := Nat.cast_ne_zero.mpr hd.ne'
  rw [Int.compare_eq_eq, div_eq_div_iff hb' hd']
  exact_mod_cast Iff.rfl

theorem compare?_eq_iff {x y : Binary64} :
    x.compare? y = some .eq ↔ ∃ z, x.size? = some z ∧ y.size? = some z := by
  cases x with
  | nan => simp [compare?, size?]
  | infinite s =>
      cases y with
      | nan => simp [compare?, size?]
      | infinite t => cases s <;> cases t <;> simp [compare?, size?]
      | finite t n f => cases s <;> simp [compare?, size?]
  | finite s m e =>
      cases y with
      | nan => simp [compare?, size?]
      | infinite t => cases t <;> simp [compare?, size?]
      | finite t n f =>
          have crosswise := compare_cross_eq (a := (signedRatio s m e).1)
            (c := (signedRatio t n f).1) (signedRatio_pos s m e) (signedRatio_pos t n f)
          simp only [compare?, size?, Option.some.injEq, crosswise]
          exact ⟨fun h => ⟨_, rfl, congrArg Sum.inr h.symm⟩,
            fun ⟨_, hx, hy⟩ => Sum.inr.inj (hx.trans hy.symm)⟩

theorem compareInt?_eq_iff {x : Binary64} {n : Int} :
    x.compareInt? n = some .eq ↔ x.size? = some (.inr n) := by
  cases x with
  | nan => simp [compareInt?, size?]
  | infinite s => cases s <;> simp [compareInt?, size?]
  | finite s m e =>
      have crosswise := compare_cross_eq (a := (signedRatio s m e).1) (c := n)
        (signedRatio_pos s m e) Nat.one_pos
      simp only [compareInt?, size?, Option.some.injEq, Sum.inr.injEq]
      simpa using crosswise

end Binary64

namespace Value

/-- The size of a quantity, unless it is no number. -/
def Quantity.size? : Quantity → Option Size
  | .whole n => some (.inr n)
  | .binary x => x.size?

theorem Quantity.compare?_eq_iff {p q : Quantity} :
    p.compare? q = some .eq ↔ ∃ z, p.size? = some z ∧ q.size? = some z := by
  cases p with
  | whole m =>
      cases q with
      | whole n =>
          rw [compare?, Option.some_inj, Int.compare_eq_eq]
          simp [size?, eq_comm]
      | binary y =>
          have swapped : (y.compareInt? m).map Ordering.swap = some .eq ↔
              y.compareInt? m = some .eq := by
            cases y.compareInt? m with
            | none => simp
            | some o => cases o <;> simp
          simp [compare?, size?, swapped, Binary64.compareInt?_eq_iff]
  | binary x =>
      cases q with
      | whole n =>
          rw [compare?, Binary64.compareInt?_eq_iff]
          exact ⟨fun h => ⟨_, h, rfl⟩, fun ⟨_, hx, hn⟩ => hx.trans hn.symm⟩
      | binary y => exact Binary64.compare?_eq_iff

theorem Quantity.whole_compare?_eq_iff {n : Int} {q : Quantity} :
    (whole n).compare? q = some .eq ↔ some (.inr (n : ℚ)) = q.size? := by
  rw [compare?_eq_iff]
  exact ⟨fun ⟨_, hn, hq⟩ => hn.trans hq.symm, fun h => ⟨_, rfl, h.symm⟩⟩

/-! ## What keys are found by -/

/-- What a key is found by. -/
inductive KeyForm where
  | null
  /-- A number by its size, and what is no number by its mark, if it has one. -/
  | number (size : Option Size) (mark : Option Nat)
  | text (s : String)
  | bytes (bs : List UInt8)
  | date (d : Date)
  /-- A moment by what its clock shows, or by its instant. -/
  | moment (m : Moment ⊕ Int)
  | tuple (items : List KeyForm)
  | file (name size type : KeyForm)
  /-- No key. -/
  | none

/-- What a moment is found by. -/
def momentForm (m : Moment) : Moment ⊕ Int :=
  match m.offset with
  | none => .inl m
  | some x => .inr (m.ticks - x * 60000000)

mutual

/-- What a value is found by. -/
def keyForm : Value → KeyForm
  | .null => .null
  | .bool b => .number (some (.inr (if b then 1 else 0 : Int))) none
  | .int n => .number (some (.inr n)) none
  | .float x => .number x.size? none
  | .nan mark => .number none (some mark)
  | .str s => .text s
  | .bytes bs => .bytes bs
  | .date d => .date d
  | .moment m => .moment (momentForm m)
  | .tuple xs => .tuple (keyForms xs)
  | .file a b c => .file (keyForm a) (keyForm b) (keyForm c)
  | .list _ | .map _ | .set _ | .ring _ _ | .again _ => .none

def keyForms : List Value → List KeyForm
  | [] => []
  | x :: xs => keyForm x :: keyForms xs

end

theorem moment_same_iff (m n : Moment) : m.same n = true ↔ momentForm m = momentForm n := by
  unfold Moment.same momentForm
  cases m.offset <;> cases n.offset <;> simp

/-- Binary numbers are found by their sizes, and what is no number by nothing else. -/
theorem float_same_iff (x y : Binary64) :
    (float x).same (float y) = true ↔ x.size? = y.size? := by
  simp only [same, Bool.or_eq_true, beq_iff_eq, Binary64.compare?_eq_iff]
  constructor
  · rintro (rfl | ⟨z, hx, hy⟩)
    · rfl
    · exact hx.trans hy.symm
  · intro h
    cases hx : x.size? with
    | some z => exact .inr ⟨z, rfl, h ▸ hx⟩
    | none =>
        have hy : y.size? = none := h ▸ hx
        left
        cases x <;> cases y <;> simp_all [Binary64.size?]

mutual

/-- **Two keys are the same exactly when their forms are equal.** -/
theorem same_iff_keyForm : ∀ x y : Value, x.isKey = true ∨ y.isKey = true →
    (x.same y = true ↔ x.keyForm = y.keyForm)
  | .tuple xs, y, h => by
      cases y with
      | tuple ys =>
          rw [same, keyForm, keyForm, KeyForm.tuple.injEq]
          exact sameItems_iff_keyForms xs ys h
      | _ => simp [same, quantity?, keyForm]
  | .file a b c, y, h => by
      cases y with
      | file a' b' c' =>
          simp only [isKey, Bool.and_eq_true] at h
          rw [same, keyForm, keyForm, KeyForm.file.injEq, Bool.and_eq_true, Bool.and_eq_true,
            same_iff_keyForm a a' (h.imp (·.1.1) (·.1.1)),
            same_iff_keyForm b b' (h.imp (·.1.2) (·.1.2)),
            same_iff_keyForm c c' (h.imp (·.2) (·.2)), and_assoc]
      | _ => simp [same, quantity?, keyForm]
  | .moment m, y, _ => by
      cases y with
      | moment n => rw [same, keyForm, keyForm, KeyForm.moment.injEq, moment_same_iff]
      | _ => simp [same, quantity?, keyForm]
  | .null, y, h | .str _, y, h | .bytes _, y, h | .date _, y, h | .list _, y, h | .map _, y, h
  | .set _, y, h | .ring _ _, y, h | .again _, y, h => by
      cases y <;> simp_all [same, quantity?, keyForm, isKey]
  | .bool _, y, _ | .int _, y, _ => by
      cases y <;> simp [same, quantity?, keyForm, Quantity.whole_compare?_eq_iff, Quantity.size?,
        Binary64.size?]
  | .nan _, y, _ => by
      cases y <;> simp [same, quantity?, keyForm, Quantity.compare?_eq_iff, Quantity.size?,
        Binary64.size?]
  | .float x, y, _ => by
      cases y with
      | float y => simp [float_same_iff, keyForm]
      | _ =>
          simp [same, quantity?, keyForm, Quantity.compare?_eq_iff, Quantity.size?,
            Binary64.size?]

theorem sameItems_iff_keyForms : ∀ xs ys : List Value, areKeys xs = true ∨ areKeys ys = true →
    (sameItems xs ys = true ↔ keyForms xs = keyForms ys)
  | [], [], _ => by simp [sameItems]
  | [], _ :: _, _ | _ :: _, [], _ => by simp [sameItems, keyForms]
  | x :: xs, y :: ys, h => by
      simp only [areKeys, Bool.and_eq_true] at h
      rw [sameItems, keyForms, keyForms, List.cons.injEq, Bool.and_eq_true,
        same_iff_keyForm x y (h.imp (·.1) (·.1)), sameItems_iff_keyForms xs ys (h.imp (·.2) (·.2))]

end

theorem same_comm {x y : Value} (hx : x.isKey = true) : x.same y = y.same x := by
  rw [Bool.eq_iff_iff, same_iff_keyForm x y (.inl hx), same_iff_keyForm y x (.inr hx), eq_comm]

/-- A key may stand for another one that is the same. -/
theorem same_congr {k key : Value} (hkey : key.isKey = true) (h : k.same key = true)
    (other : Value) : k.same other = key.same other := by
  have hk : k.isKey = true := isKey_of_same key k (same_comm hkey ▸ h) hkey
  have forms : k.keyForm = key.keyForm := (same_iff_keyForm k key (.inl hk)).mp h
  rw [Bool.eq_iff_iff, same_iff_keyForm k other (.inl hk), same_iff_keyForm key other (.inl hkey),
    forms]

end Value

namespace Table

variable {α : Type}

/-- An entry that is put under a key leaves what is found under other keys. -/
theorem find?_put_of_not_same {key name : Value} (hkey : key.isKey = true)
    (apart : key.same name = false) (t : Table α) (value : α) :
    (t.put key value).find? name = t.find? name := by
  induction t with
  | nil => simp [put, find?, apart]
  | cons e rest ih =>
      obtain ⟨k, v⟩ := e
      by_cases h : k.same key = true
      · have other : k.same name = false := (Value.same_congr hkey h name).trans apart
        simp [put, find?, h, other]
      · by_cases found : k.same name = true
        · simp [put, find?, h, found]
        · simp [put, find?, h, found, ih]

variable {key name : Value}

/-- A value is compared alike with keys that are the same. -/
theorem same_of_same (hkey : key.isKey = true) (h : key.same name = true) (k : Value) :
    k.same key = k.same name := by
  have hname : name.isKey = true := Value.isKey_of_same key name h hkey
  rw [← Value.same_comm hkey, ← Value.same_comm hname]
  exact Value.same_congr hname h k

/-- The same entry is found under keys that are the same. -/
theorem find?_congr (hkey : key.isKey = true) (h : key.same name = true) (t : Table α) :
    t.find? key = t.find? name := by
  induction t with
  | nil => rfl
  | cons e rest ih =>
      obtain ⟨k, v⟩ := e
      rw [find?, find?, same_of_same hkey h, ih]

/-- What is found once an entry has been put. -/
theorem find?_put (hkey : key.isKey = true) (t : Table α) (value : α) (name : Value) :
    (t.put key value).find? name = if key.same name then some value else t.find? name := by
  split
  · rename_i same
    rw [← find?_congr hkey same, find?_put_self]
  · rename_i apart
    exact find?_put_of_not_same hkey (Bool.eq_false_iff.mpr apart) t value

/-- What is found once an entry has been removed. -/
theorem find?_erase (hkey : key.isKey = true) {t : Table α} (ht : t.Distinct) (name : Value) :
    (t.erase key).find? name = if key.same name then none else t.find? name := by
  induction t with
  | nil => simp [erase]
  | cons e rest ih =>
      obtain ⟨k, v⟩ := e
      obtain ⟨hk, hrest⟩ := List.pairwise_cons.mp ht
      by_cases here : k.same key = true
      · rw [erase, if_pos here]
        by_cases sought : key.same name = true
        · -- The key that was removed does not come again.
          rw [if_pos sought, find?_eq_none_iff]
          intro k' hk'
          have hk'' : k.isKey = true := Value.isKey_of_same key k (Value.same_comm hkey ▸ here) hkey
          rw [← same_of_same hkey sought, ← same_of_same hk'' here, ← Value.same_comm hk'']
          exact hk k' hk'
        · have other : k.same name = key.same name := Value.same_congr hkey here name
          rw [if_neg sought, find?, other, if_neg sought]
      · rw [erase, if_neg here, find?, find?, ih hrest]
        by_cases sought : key.same name = true
        · rw [if_pos sought, if_pos sought, ← same_of_same hkey sought, if_neg here]
        · rw [if_neg sought, if_neg sought]

/-- Entries under other keys leave what is found under a key. -/
theorem find?_foldl_put_of_absent {es : Table α} (hkeys : ∀ e ∈ es, e.1.isKey = true)
    (absent : es.find? key = none) (t : Table α) :
    (es.foldl (fun t e => t.put e.1 e.2) t).find? key = t.find? key := by
  induction es generalizing t with
  | nil => rfl
  | cons e rest ih =>
      obtain ⟨k, v⟩ := e
      obtain ⟨hk, hrest⟩ := List.forall_mem_cons.mp hkeys
      obtain ⟨apart, later⟩ := List.forall_mem_cons.mp (find?_eq_none_iff.mp absent)
      rw [List.foldl_cons, ih hrest (find?_eq_none_iff.mpr later), find?_put_of_not_same hk apart]

/-- What is found once entries without repeated keys have been put, one after the other. -/
theorem find?_foldl_put {es : Table α} (hkeys : ∀ e ∈ es, e.1.isKey = true) (hes : es.Distinct)
    {value : α} (found : es.find? key = some value) (t : Table α) :
    (es.foldl (fun t e => t.put e.1 e.2) t).find? key = some value := by
  induction es generalizing t with
  | nil => cases found
  | cons e rest ih =>
      obtain ⟨k, v⟩ := e
      obtain ⟨hk, hrest⟩ := List.forall_mem_cons.mp hkeys
      obtain ⟨apart, distinct⟩ := List.pairwise_cons.mp hes
      rw [List.foldl_cons]
      rw [find?] at found
      split at found
      · rename_i here
        obtain rfl := Option.some.inj found
        have absent : find? rest key = none := by
          refine find?_eq_none_iff.mpr fun k' hk' => ?_
          rw [← same_of_same hk here, ← Value.same_comm hk]
          exact apart k' hk'
        rw [find?_foldl_put_of_absent hrest absent, ← find?_congr hk here, find?_put_self]
      · exact ih hrest distinct found _

end Table

end FormRules
