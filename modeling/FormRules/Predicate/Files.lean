import FormRules.Predicate.Arity
import FormRules.Predicate.FileSize
import FormRules.Registry
import FormRules.Text.Split
import FormRules.Value.Collection
/-!
# File rules

The rules for collections of files.  Nothing is an empty collection; the members of a text are its
characters and those of a mapping its keys.  Members are looked at in order and only as far as
needed, so that a member that is no file is noticed only when it is reached.

A rule answers with a value, as every predicate does.  What it asks of each member is answered with
a value as well, and counts as passed if that is truthy.
-/
namespace FormRules

/-- The rules for collections of files. -/
inductive FileRule where
  | required
  | isEmpty
  | isSingle
  | isMultiple
  | isFilesCount
  | isTotalSize
  | isEachFileSize
  | isEachFileType
  | isEachFileExtension
deriving DecidableEq, Repr

namespace FileRule

def all : List FileRule :=
  [required, isEmpty, isSingle, isMultiple, isFilesCount, isTotalSize, isEachFileSize,
    isEachFileType, isEachFileExtension]

/-- The name of a rule in rule strings. -/
def name : FileRule → String
  | required => "required"
  | isEmpty => "isEmpty"
  | isSingle => "isSingle"
  | isMultiple => "isMultiple"
  | isFilesCount => "isFilesCount"
  | isTotalSize => "isTotalSize"
  | isEachFileSize => "isEachFileSize"
  | isEachFileType => "isEachFileType"
  | isEachFileExtension => "isEachFileExtension"

/-! ## Members -/

/-- The members of the value of a file field. -/
def filesOf : Value → Outcome (List Value)
  | .null => .ok []
  | v => v.members

def nameOf : Value → Outcome Value
  | .file name _ _ => .ok name
  | _ => .error .noAttribute

def sizeOf : Value → Outcome Value
  | .file _ size _ => .ok size
  | _ => .error .noAttribute

def typeOf : Value → Outcome Value
  | .file _ _ type => .ok type
  | _ => .error .noAttribute

/-- Whether all members pass a test, which is applied up to the first one that does not. -/
def allPass (test : Value → Outcome Value) : List Value → Outcome Value
  | [] => .ok (.bool true)
  | f :: rest => do if (← test f).truthy then allPass test rest else return .bool false

/-! ## Sizes -/

/-- A size as a number. -/
def quantity (v : Value) : Outcome Value.Quantity :=
  match v.quantity? with
  | some q => .ok q
  | none => .error .typeMismatch

/-- The sum of two sizes; it is whole if both are. -/
def addSizes : Value.Quantity → Value.Quantity → Outcome Value.Quantity
  | .whole m, .whole n => .ok (.whole (m + n))
  | .whole m, .binary y => do return .binary ((← nearestBinary m).add y)
  | .binary x, .whole n => do return .binary (x.add (← nearestBinary n))
  | .binary x, .binary y => .ok (.binary (x.add y))

/-- The sum of the sizes of all members. -/
def totalSize (total : Value.Quantity) : List Value → Outcome Value.Quantity
  | [] => .ok total
  | f :: rest => do totalSize (← addSizes total (← quantity (← sizeOf f))) rest

/-- Whether a size is at most a number of bytes. -/
def atMost (q : Value.Quantity) (limit : Int) : Bool :=
  match q.compare? (.whole limit) with
  | some .lt | some .eq => true
  | _ => false

/-! ## Types and extensions -/

/-- The text in a part of a member.  Nothing else can be cut: bytes can, but not at a text. -/
def textOf : Value → Outcome String
  | .str s => .ok s
  | .bytes _ => .error .typeMismatch
  | _ => .error .noAttribute

/-- The media type of a member as a text, which is empty for what does not count. -/
def mimeOf (type : Value) : Outcome String := if type.truthy then textOf type else .ok ""

/-- Whether a media type fits a pattern; either part of the pattern may be a star, and the second
one may be missing. -/
def typeFits (mime pattern : String) : Value :=
  let (mimeMajor, mimeMinor) := Text.cutFirst '/' (Unicode.lower mime.toList)
  let (major, minor) := Text.cutFirst '/' (Unicode.lower pattern.toList)
  if major == ['*'] || major == mimeMajor then
    -- The first of two answers is given if it is truthy, and otherwise the second one.
    let any := Value.bool (minor.isEmpty || minor == ['*'])
    if any.truthy then any else .bool (minor == mimeMinor)
  else .bool false

/-- Whether the media type of a member fits one of several patterns. -/
def fitsOneOf (patterns : List String) (f : Value) : Outcome Value :=
  match patterns with
  | [] => .ok (.bool false)
  | _ => do
      let mime ← mimeOf (← typeOf f)
      return .bool (patterns.any fun pattern => (typeFits mime pattern).truthy)

/-- The text behind the last dot of a file name, in lower case; nothing if there is no dot. -/
def extensionOf (fileName : List Char) : List Char :=
  match Text.afterLast? '.' fileName with
  | some ext => Unicode.lower ext
  | none => []

/-- An allowed extension in lower case and without leading dots. -/
def allowedExtension (text : String) : List Char :=
  (Unicode.lower text.toList).dropWhile (· == '.')

/-- Whether the extension of a member is one of those allowed. -/
def hasExtension (allowed : List (List Char)) (f : Value) : Outcome Value := do
  let fileName ← textOf (← nameOf f)
  return .bool (allowed.contains (extensionOf fileName.toList))

/-! ## Tests -/

/-- The number of members satisfies a condition. -/
def testCount (v : Value) (ok : Nat → Bool) : Outcome Value := do
  return .bool (ok (← filesOf v).length)

/-- What a rule with parameters answers for a collection. -/
def test : FileRule → Value → List String → Outcome Value
  | required, v, [] => testCount v (0 < ·)
  | isEmpty, v, [] => testCount v (· == 0)
  | isSingle, v, [] => testCount v (· == 1)
  | isMultiple, v, [] => testCount v (1 < ·)
  | isFilesCount, v, [count] => do
      let files ← filesOf v
      return .bool ((files.length : Int) == (← readInteger count))
  | isTotalSize, v, [size] => do
      let total ← totalSize (.whole 0) (← filesOf v)
      return .bool (atMost total (← FileSize.parse size))
  | isEachFileSize, v, [size] => do
      let limit ← FileSize.parse size
      allPass (fun f => do return .bool (atMost (← quantity (← sizeOf f)) limit)) (← filesOf v)
  | isEachFileType, v, patterns => do allPass (fitsOneOf patterns) (← filesOf v)
  | isEachFileExtension, v, extensions => do
      allPass (hasExtension (extensions.map allowedExtension)) (← filesOf v)
  | _, _, _ => .error .typeMismatch

/-! ## Checks of parameters -/

def noParams : ParamCheck := Predicate.Arity.check ⟨"_no_params", none, some 0⟩

def oneCount : ParamCheck := fun params => do
  Predicate.Arity.check ⟨"_one_count", some "count", some 1⟩ params
  if let text :: _ := params then let _ ← readInteger text

def oneSize : ParamCheck := fun params => do
  Predicate.Arity.check ⟨"_one_size", some "max_size", some 1⟩ params
  if let text :: _ := params then let _ ← FileSize.parse text

def atLeastOne : ParamCheck := Predicate.Arity.check ⟨"_at_least_one", some "first", none⟩

/-- The check of a rule's parameters. -/
def check : FileRule → ParamCheck
  | required | isEmpty | isSingle | isMultiple => noParams
  | isFilesCount => oneCount
  | isTotalSize | isEachFileSize => oneSize
  | isEachFileType | isEachFileExtension => atLeastOne

/-- What is registered for a rule. -/
def registration (r : FileRule) : Registration :=
  ⟨⟨none, r.test⟩, some r.check⟩

end FileRule

end FormRules
