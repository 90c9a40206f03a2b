import FormRules.Value.Table
import FormRules.Value.Text
/-!
# Messages for failed rules

A source of messages is a text for every rule, or a mapping from rule names to messages.
-/
namespace FormRules

/-- What a source says about a failed rule; nothing if it says nothing. -/
def messageFor (source : Value) (rule : String) : Value :=
  match source.opened with
  | .map entries => (Table.find? entries (.str rule)).getD .null
  | .str message => .str message
  | _ => .null

/-- The first source that says something that counts, or a plain `false`. -/
def resolveMessage (own fallback : Value) (rule : String) : Value :=
  let first := messageFor own rule
  if first.truthy then first
  else
    let second := messageFor fallback rule
    if second.truthy then second else .bool false

end FormRules
