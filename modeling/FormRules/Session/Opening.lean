import FormRules.Definition.Basic
import FormRules.Session.Run
/-!
# Opening a form

A session begins by opening a form, from options, from options and a mapping, or from a definition
together with values for its fields.
-/
namespace FormRules.Session

/-- Options that a client gives, each at most once. -/
abbrev Given := List (OptionName × HookSource)

/-- What a form is opened from. -/
inductive Opening where
  | options (given : Given)
  /-- Options, and names of options that are given once more. -/
  | twice (given : Given) (extra : List String)
  | mapping (data : Table Value) (given : Given) (extra : List (String × Value))
  | definition (d : FormDefinition) (given : Given) (extra : List (String × Value))
      (values : Value) (validators : Table HookSource)

/-- What a function for an option is called for. -/
def roleOf : OptionName → Role
  | .reject => .reject
  | .validateOne => .validateOne
  | .validateAll => .validateAll
  | _ => .accept

/-- Take over the functions among given options. -/
def takeGiven : Given → FormM (List (OptionName × Hook))
  | [] => return []
  | (name, source) :: rest => do
      let hook ← takeHook (roleOf name) source
      return (name, hook) :: (← takeGiven rest)

/-- Start with a form that has been opened. -/
def start (f : Form) : FormM Unit :=
  modify fun w => { w with registries := w.registries.withBuiltins, form := f, past := [] }

/-- Options by name, none of which may be named twice or be one of the taken names. -/
def namedOptions (given : List (OptionName × Hook)) (extra : List (String × Value))
    (taken : List String) : Outcome (List (String × Hook)) :=
  let names := given.map fun e => e.1.text
  if extra.any fun e => (taken ++ names).contains e.1 then .error .typeMismatch
  else .ok (given.map (fun e => (e.1.text, e.2)) ++ extra.map (fun e => (e.1, Hook.value e.2)))

/-- A value for a field of a kind; the members of a file field's value may be mappings. -/
def valueFor (kind : FieldKind) (v : Value) : Outcome Value :=
  match kind, v with
  | .file, .null => .ok .null
  | .file, v => do
      let files ← (← v.members).mapM fun item => match item.opened with
        | .map entries => fileOfValue (.map entries)
        | _ => .ok item
      return .list files
  | _, v => .ok v

/-- Register the fields of a definition and give them their values. -/
def buildFields (values : Value) (validators : Table HookSource) :
    List FieldDefinition → FormM Unit
  | [] => return
  | d :: rest => do
      if !d.name.isKey then throw .typeMismatch
      let source := (validators.find? d.name).getD (.value .null)
      let validator ← takeHook (.validator d.name) source
      let id ← FormM.newField
        ⟨d.name, d.kind, d.rules, validator, d.errorHelp, d.validateOnEvent, .null,
          .bool false, .tuple []⟩
      Form.registerField id
      if ← FormM.lift (values.hasItem d.name) then
        let v ← FormM.lift (do valueFor d.kind (← values.item d.name))
        let field ← FormM.lift ((← FormM.field id).store v)
        FormM.setField id field
      buildFields values validators rest

/-- Open a form. -/
def «open» : Opening → FormM Unit
  | .options given => do
      let given ← takeGiven given
      let o := given.foldl (fun o e => o.assign e.1 e.2) FormOptions.default
      start (← FormM.lift (Form.opened o))
  | .twice given extra => do
      let given ← takeGiven given
      let o := given.foldl (fun o e => o.assign e.1 e.2) FormOptions.default
      start (← FormM.lift (Form.openedWith o extra))
  | .mapping data given extra => do
      let given ← takeGiven given
      let named ← FormM.lift (namedOptions given extra ["data", "cls"])
      start (← FormM.lift (do Form.opened (← FormOptions.ofMapping data named)))
  | .definition d given extra values validators => do
      let given ← takeGiven given
      -- Without an accept function there is nothing in its place.
      let given := if (given.lookup .accept).isSome then given else (.accept, .none) :: given
      let taken :=
        [OptionName.accept.text, OptionName.reject.text, "values", "validators", "data", "cls",
          "self"]
      let named ← FormM.lift (namedOptions given extra taken)
      start (← FormM.lift (do Form.opened (← FormOptions.ofMapping d.optionMembers named)))
      let values := if values.truthy then values else .map []
      buildFields values validators d.fields

/-- The world in which a form is opened. -/
def world (registries : Registries) : World :=
  World.initial registries (Form.ofOptions FormOptions.default)

end FormRules.Session
