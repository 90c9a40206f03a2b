import FormRules.Value.Table
import FormRules.Yaml.Content
import FormRules.Yaml.Merging
/-!
# What nodes stand for

A scalar stands for a value, and a collection for an object with parts: what its items, or its keys
and their values, stand for.  Collections are looked into after everything around them has been
built, in the order in which they were met, so that faults come up level by level.  A node that is
met twice stands for the same thing.
-/
namespace FormRules.Yaml

/-- What a node stands for: a value, or the object of a collection. -/
inductive Part where
  | value (v : Value)
  | object (n : NodeId)
deriving Inhabited

/-- What is in a collection. -/
inductive Object where
  | list (items : List Part)
  | pairs (items : List (Part × Part))
  | map (entries : List (Value × Part))
  | set (members : List Value)
deriving Inhabited

/-- The objects of the collections that were met, by the numbers of their nodes. -/
abbrev Objects := Array (Option Object)

/-- Objects that are being built. -/
structure Workshop where
  graph : Graph
  /-- What the nodes that were met stand for, by number. -/
  parts : Array (Option Part)
  objects : Objects
  /-- The collections that have not been looked into, the latest first. -/
  waiting : List NodeId

/-- Building objects. -/
abbrev Build := StateT Workshop (Except Fault)

namespace Build

def badNode {α : Type} (fault : NodeFault) : Build α := throw (.node fault)

/-- The text of a scalar; a mapping with a stand-in among its keys has the text of its value. -/
def textOf (g : Graph) : (fuel : Nat) → NodeId → Except Fault String
  | 0, _ => .error (.content .nestingLimit)
  | fuel + 1, n =>
      match (g.node n).shape with
      | .scalar text => .ok text
      | .sequence _ => .error (.node .otherKind)
      | .mapping entries =>
          match entries.find? fun e => (g.node e.1).tag = .standIn with
          | some (_, value) => textOf g fuel value
          | none => .error (.node .otherKind)

/-- The value of a scalar.  A moment must be a scalar itself.  What is no number is marked by the
number of its node, behind the marks that are taken. -/
def scalarValue (g : Graph) (n : NodeId) (tag : Tag) : Except Fault Value := do
  let text ← textOf g (g.size + 1) n
  if tag = .timestamp && g.isMapping n then throw (.content .typeMismatch)
  Content.ofText tag (n + 2) text

/-- What a node stands for, when it is met for the first time. -/
def newPart (n : NodeId) : Build Part := do
  let g := (← get).graph
  match (g.node n).tag with
  | .sequence | .mapping | .set | .orderedMap | .pairs =>
      modify fun w => { w with waiting := n :: w.waiting }
      return .object n
  | .merge => badNode (.unknownTag (Tag.standard ++ "merge"))
  | .standIn => badNode (.unknownTag (Tag.standard ++ "value"))
  | .other name => badNode (.unknownTag name)
  | tag => return .value (← scalarValue g n tag)

/-- What a node stands for. -/
def part (n : NodeId) : Build Part := do
  match ((← get).parts[n]?).join with
  | some p => return p
  | none =>
      let p ← newPart n
      modify fun w => { w with parts := w.parts.setIfInBounds n (some p) }
      return p

/-- What a pair of a list of pairs stands for. -/
def pair (n : NodeId) : Build (Part × Part) := do
  match ((← get).graph.node n).shape with
  | .mapping [(key, value)] =>
      let k ← part key
      return (k, ← part value)
  | .mapping _ => badNode .notOnePair
  | _ => badNode .otherKind

/-- The entries of a mapping behind those that are there. -/
def entries (found : Table Part) : List (NodeId × NodeId) → Build (Table Part)
  | [] => return found
  | (key, value) :: rest => do
      match ← part key with
      | .object _ => badNode .keyCannotBeCompared
      | .value k =>
          let v ← part value
          entries (found.put k v) rest

/-- The entries of a mapping, after merging. -/
def mergedEntries (n : NodeId) : Build (Table Part) := do
  let g ← (← get).graph.merged n
  modify fun w => { w with graph := g }
  entries [] (g.entries n)

/-- What is in a collection. -/
def object (n : NodeId) : Build Object := do
  let x := (← get).graph.node n
  match x.tag, x.shape with
  | .sequence, .sequence items => return .list (← items.mapM part)
  | .orderedMap, .sequence items | .pairs, .sequence items => return .pairs (← items.mapM pair)
  | .mapping, .mapping _ => return .map (← mergedEntries n)
  | .set, .mapping _ => return .set (← mergedEntries n).keys
  | _, _ => badNode .otherKind

/-- Look into the collections of a batch, and then into those that were met meanwhile. -/
def objects : (fuel : Nat) → List NodeId → Build Unit
  | 0, _ => return
  | fuel + 1, [] => do
      let w ← get
      if !w.waiting.isEmpty then
        set { w with waiting := [] }
        objects fuel w.waiting.reverse
  | fuel + 1, n :: rest => do
      let o ← object n
      modify fun w => { w with objects := w.objects.setIfInBounds n (some o) }
      objects fuel rest

/-- What the root of a document stands for, with all objects in it. -/
def document (root : NodeId) : Build Part := do
  let p ← part root
  objects (2 * (← get).graph.size + 2) []
  return p

end Build

/-- What a document stands for, and the objects in it. -/
def Document.build (d : Document) : Except Fault (Part × Objects) := do
  let blank (α : Type) : Array (Option α) := (List.replicate d.nodes.size none).toArray
  let (p, w) ← (Build.document d.root).run ⟨d.nodes, blank Part, blank Object, []⟩
  return (p, w.objects)

end FormRules.Yaml
