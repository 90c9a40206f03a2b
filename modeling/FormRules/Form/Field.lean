import FormRules.Form.Callback
import FormRules.Predicate.Files
import FormRules.Value.Table
/-!
# Fields

A field has a name, a kind that says how it exposes its value, optional rules and messages, and
the value itself: a flag for a checkbox, files for a file input, anything else otherwise.
-/
namespace FormRules

/-- How a field exposes its value. -/
inductive FieldKind where
  | text
  | checkbox
  | file
  | other
deriving DecidableEq, Repr, Inhabited

namespace FieldKind

/-- The name of a kind. -/
def label : FieldKind → String
  | text => "text"
  | checkbox => "checkbox"
  | file => "file"
  | other => "other"

/-- The kind that a value names: nothing means text, an unknown name any other kind. -/
def ofValue : Value → FieldKind
  | .null => text
  | .str "text" => text
  | .str "checkbox" => checkbox
  | .str "file" => file
  | _ => other

/-- The registry that the rules of such a field are looked up in. -/
def shelf : FieldKind → Shelf
  | file => .file
  | _ => .standard

end FieldKind

/-- Texts that leave a checkbox unchecked, in lower case. -/
def uncheckedTexts : List String := ["", "false", "0", "off", "no"]

/-- The state of a checkbox for a value. -/
def checkedState : Value → Bool
  | .str s =>
      !uncheckedTexts.contains (String.ofList (Unicode.lower (Unicode.strip s.toList)))
  | v => v.truthy

/-- A field of a form. -/
structure Field where
  name : Value
  kind : FieldKind
  rules : Value
  validator : Hook
  errorHelp : Value
  validateOnEvent : Value
  value : Value
  checked : Value
  files : Value
deriving Inhabited

namespace Field

/-- The current value, by kind. -/
def current (f : Field) : Value :=
  match f.kind with
  | .checkbox => f.checked
  | .file => f.files
  | _ => f.value

/-- Store a value in the place for the field's kind. -/
def store (f : Field) (v : Value) : Outcome Field :=
  match f.kind with
  | .checkbox => .ok { f with checked := .bool (checkedState v) }
  | .file => do
      if v.truthy then return { f with files := .tuple (← v.members) }
      else return { f with files := .tuple [] }
  | _ => .ok { f with value := v }

end Field

/-! ## Files given as mappings -/

/-- The integer that bytes write in ASCII. -/
def readBytes (bs : List UInt8) : Outcome Int :=
  -- A byte beyond ASCII is no part of a numeral, whatever character stands for it.
  let text := bs.map fun b => if b < 128 then Char.ofNat b.toNat else '\x00'
  match Numeral.readInt (String.ofList text) with
  | .error (.notInteger _) => .error (.numeral (.notIntegerBytes (Value.bytesText bs)))
  | other => other.mapError .numeral

/-- A number of bytes from a value. -/
def sizeOfValue : Value → Outcome Value
  | .int n => .ok (.int n)
  | .bool b => .ok (.int (if b then 1 else 0))
  | .float x => do return .int (← FileSize.toInteger x)
  | .nan _ => .error .undefinedInteger
  | .bytes bs => do return .int (← readBytes bs)
  | .str s => do return .int (← readInteger s)
  | _ => .error .typeMismatch

/-- A file from a mapping with a name and optionally a size and a type. -/
def fileOfValue (v : Value) : Outcome Value :=
  match v.opened with
  | .map entries => do
      let some name := Table.find? entries (.str "name") | .error (.noEntry (.str "name"))
      let size ← sizeOfValue ((Table.find? entries (.str "size")).getD (.int 0))
      return .file name size ((Table.find? entries (.str "type")).getD (.str ""))
  | _ => .error .typeMismatch

end FormRules
