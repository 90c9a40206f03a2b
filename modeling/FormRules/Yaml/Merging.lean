import FormRules.Yaml.Node
/-!
# Merging mappings

The key `<<` of a mapping is not an entry of it: the mappings under the key, one or several in a
sequence, are merged into the mapping around.  Their entries come first, those of a later mapping
in front of those of an earlier one, so that the mapping's own entries take their place.  What is
merged is merged into before.  On the way a stand-in among the keys becomes a text.
-/
namespace FormRules.Yaml.Graph

/-- An entry of a mapping. -/
abbrev MapEntry := NodeId × NodeId

/-- The entries of a mapping; another node has none. -/
def entries (g : Graph) (n : NodeId) : List MapEntry :=
  match (g.node n).shape with
  | .mapping entries => entries
  | _ => []

/-- Whether a node is a mapping, whatever its tag says. -/
def isMapping (g : Graph) (n : NodeId) : Bool :=
  match (g.node n).shape with
  | .mapping _ => true
  | _ => false

def cannotBeMerged {α : Type} : Except Fault α := .error (.node .cannotBeMerged)

mutual

/-- Merge into a mapping from an entry on; `incoming` are the entries that have been merged. -/
def mergeFrom (n : NodeId) (index : Nat) (incoming : List MapEntry) :
    (fuel : Nat) → Graph → Except Fault Graph
  | 0, g => .ok g
  | fuel + 1, g =>
      let entries := g.entries n
      match entries[index]? with
      | none =>
          .ok (if incoming.isEmpty then g else g.setShape n (.mapping (incoming ++ entries)))
      | some (key, value) =>
          match (g.node key).tag with
          | .merge => do
              let g := g.setShape n (.mapping (entries.eraseIdx index))
              match (g.node value).shape with
              | .mapping _ => do
                  let g ← mergeFrom value 0 [] fuel g
                  mergeFrom n index (incoming ++ g.entries value) fuel g
              | .sequence items => do
                  let (lists, g) ← mergeItems items fuel g
                  mergeFrom n index (incoming ++ lists.reverse.flatten) fuel g
              | .scalar _ => cannotBeMerged
          | .standIn => mergeFrom n (index + 1) incoming fuel (g.setTag key .str)
          | _ => mergeFrom n (index + 1) incoming fuel g

/-- Merge into each of some mappings, in order; the entries they have then. -/
def mergeItems : List NodeId → (fuel : Nat) → Graph → Except Fault (List (List MapEntry) × Graph)
  | [], _, g => .ok ([], g)
  | _ :: _, 0, g => .ok ([], g)
  | n :: rest, fuel + 1, g =>
      if g.isMapping n then do
        let g ← mergeFrom n 0 [] fuel g
        let own := g.entries n
        let (lists, g) ← mergeItems rest fuel g
        return (own :: lists, g)
      else cannotBeMerged

end

/-- More steps than it takes to merge in any document. -/
def mergeLimit : Nat := Nat.pow 2 62

/-- Merge into a mapping. -/
def merged (g : Graph) (n : NodeId) : Except Fault Graph := mergeFrom n 0 [] mergeLimit g

end FormRules.Yaml.Graph
