import FormRules.Yaml.Lexer
import FormRules.Yaml.Tag
/-!
# Nodes of a document

A document is a graph of scalars, sequences and mappings, each with its tag.  Nodes are numbered in
the order in which they start.  An alias stands for the node that carries its name, which must have
started before it but need not be complete: a collection may contain itself.  What is left out
between the marks of a collection is a scalar without text.
-/
namespace FormRules.Yaml

/-- A node by its number. -/
abbrev NodeId := Nat

/-- What a node is made of. -/
inductive Shape where
  | scalar (text : String)
  | sequence (items : List NodeId)
  | mapping (entries : List (NodeId × NodeId))
deriving Repr, Inhabited

/-- A node of a document. -/
structure Node where
  tag : Tag
  shape : Shape
deriving Repr, Inhabited

namespace Node

/-- The tag that is written, unless it is the one that leaves the choice open. -/
def givenTag? (tag : Option String) : Option Tag :=
  (tag.filter (· != "!")).map Tag.ofName

/-- A scalar with an optional tag. -/
def ofText (tag : Option String) (text : String) (plain : Bool) : Node :=
  ⟨(givenTag? tag).getD (if plain || tag.isSome then .ofText text else .str), .scalar text⟩

/-- What is left out. -/
def absent : Node := ⟨.null, .scalar ""⟩

/-- A sequence that is not complete. -/
def openSequence (tag : Option String) : Node := ⟨(givenTag? tag).getD .sequence, .sequence []⟩

/-- A mapping that is not complete. -/
def openMapping (tag : Option String) : Node := ⟨(givenTag? tag).getD .mapping, .mapping []⟩

end Node

/-- The nodes of a document by their numbers. -/
abbrev Graph := Array Node

namespace Graph

/-- A node; there is one for every number. -/
def node (g : Graph) (n : NodeId) : Node := (g[n]?).getD .absent

/-- The graph with other contents of a node. -/
def setShape (g : Graph) (n : NodeId) (shape : Shape) : Graph :=
  g.modify n fun x => { x with shape := shape }

/-- The graph with another tag of a node. -/
def setTag (g : Graph) (n : NodeId) (tag : Tag) : Graph :=
  g.modify n fun x => { x with tag := tag }

end Graph

/-- A document that is being read. -/
structure Reader where
  lexer : Lexer
  /-- What the handles of tags stand for. -/
  handles : List (String × String)
  /-- The nodes that have names. -/
  anchors : List (String × NodeId)
  nodes : Graph

/-- Reading on in a document. -/
abbrev Read := StateT Reader (Except Fault)

namespace Reader

/-- The handles that need no directive. -/
def standardHandles : List (String × String) := [("!", "!"), ("!!", Tag.standard)]

/-- The start of a text. -/
def ofText (s : List Char) (barrier : Option Char) : Reader :=
  ⟨.ofText s barrier, standardHandles, [], #[]⟩

def outOfOrder {α : Type} (fault : OrderFault) : Read α := throw (.order fault)

def badReference {α : Type} (fault : ReferenceFault) : Read α := throw (.reference fault)

/-- The next token. -/
def peek : Read Token := do
  let r ← get
  let l ← r.lexer.ready
  set { r with lexer := l }
  return l.head

/-- Take the token that was looked at. -/
def take : Read Unit := modify fun r => { r with lexer := r.lexer.tail }

/-- The token behind the one that was looked at. -/
def advance : Read Token := do take; peek

/-- The whole name of a written tag. -/
def tagName (t : WrittenTag) : Read String := do
  match t.handle with
  | none => return t.suffix
  | some handle =>
      match (← get).handles.lookup handle with
      | some tagPrefix => return tagPrefix ++ t.suffix
      | none => outOfOrder (.undefinedHandle handle)

/-- What may be written in front of a node. -/
structure Properties where
  anchor : Option String
  tag : Option String

/-- The anchor and the tag in front of a node, in either order. -/
def properties : Read Properties := do
  match ← peek with
  | .anchor name =>
      match ← advance with
      | .tag t => take; return ⟨some name, some (← tagName t)⟩
      | _ => return ⟨some name, none⟩
  | .tag t =>
      match ← advance with
      | .anchor name => take; return ⟨some name, some (← tagName t)⟩
      | _ => return ⟨none, some (← tagName t)⟩
  | _ => return ⟨none, none⟩

/-- A name must not be given twice. -/
def checkAnchor (anchor : Option String) : Read Unit := do
  if let some name := anchor then
    if ((← get).anchors.lookup name).isSome then badReference (.secondAnchor name)

/-- Add a node, with a name if it has one. -/
def add (anchor : Option String) (n : Node) : Read NodeId := do
  let id := (← get).nodes.size
  modify fun r => { r with
    nodes := r.nodes.push n
    anchors := match anchor with
      | some name => (name, id) :: r.anchors
      | none => r.anchors }
  return id

/-- A node for what is left out. -/
def absent : Read NodeId := add none .absent

/-- A sequence whose items are read when it has been added. -/
def sequence (p : Properties) (items : Read (List NodeId)) : Read NodeId := do
  checkAnchor p.anchor
  let id ← add p.anchor (.openSequence p.tag)
  let items ← items
  modify fun r => { r with nodes := r.nodes.setShape id (.sequence items) }
  return id

/-- A mapping whose entries are read when it has been added. -/
def mapping (p : Properties) (entries : Read (List (NodeId × NodeId))) : Read NodeId := do
  checkAnchor p.anchor
  let id ← add p.anchor (.openMapping p.tag)
  let entries ← entries
  modify fun r => { r with nodes := r.nodes.setShape id (.mapping entries) }
  return id

/-- A scalar. -/
def scalar (p : Properties) (text : String) (plain : Bool) : Read NodeId := do
  checkAnchor p.anchor
  add p.anchor (.ofText p.tag text plain)

/-- The node that an alias stands for. -/
def aliased (name : String) : Read NodeId := do
  match (← get).anchors.lookup name with
  | none => badReference (.undefinedAlias name)
  | some n => return n

mutual

/-- A node.  Block collections may stand only where `block` says so, and a sequence that is not
indented only where `flush` does. -/
def node (block flush : Bool) : Nat → Read NodeId
  | 0 => outOfOrder .tooDeep
  | fuel + 1 => do
      if let .alias name := ← peek then
        take
        return ← aliased name
      let p ← properties
      match ← peek with
      | .scalar text plain => take; scalar p text plain
      | .flowSequenceStart => sequence p (flowItems true fuel)
      | .flowMappingStart => mapping p (flowEntries true fuel)
      | t =>
          if t = .blockEntry && flush then sequence p (flushItems fuel)
          else if t = .blockSequenceStart && block then
            sequence p (do take; blockItems fuel)
          else if t = .blockMappingStart && block then
            mapping p (do take; blockEntries fuel)
          else if p.anchor.isSome || p.tag.isSome then scalar p "" p.tag.isNone
          else outOfOrder .noNode

/-- A node of a block collection, unless one of some tokens shows that there is none. -/
def blockNode (flush : Bool) (stops : List Token) : Nat → Read NodeId
  | 0 => outOfOrder .tooDeep
  | fuel + 1 => do
      if stops.contains (← peek) then absent else node true flush fuel

/-- A node of a flow collection, unless one of some tokens shows that there is none. -/
def flowNode (stops : List Token) : Nat → Read NodeId
  | 0 => outOfOrder .tooDeep
  | fuel + 1 => do
      if stops.contains (← peek) then absent else node false false fuel

/-- The items of an indented block sequence. -/
def blockItems : Nat → Read (List NodeId)
  | 0 => outOfOrder .tooDeep
  | fuel + 1 => do
      match ← peek with
      | .blockEntry =>
          take
          let item ← blockNode false [.blockEntry, .blockEnd] fuel
          return item :: (← blockItems fuel)
      | .blockEnd => take; return []
      | _ => outOfOrder .noBlockEnd

/-- The items of a block sequence at the column of the keys around it. -/
def flushItems : Nat → Read (List NodeId)
  | 0 => outOfOrder .tooDeep
  | fuel + 1 => do
      match ← peek with
      | .blockEntry =>
          take
          let item ← blockNode false [.blockEntry, .key, .value, .blockEnd] fuel
          return item :: (← flushItems fuel)
      | _ => return []

/-- The value of an entry of a block mapping. -/
def blockValue : Nat → Read NodeId
  | 0 => outOfOrder .tooDeep
  | fuel + 1 => do
      match ← peek with
      | .value => take; blockNode true [.key, .value, .blockEnd] fuel
      | _ => absent

/-- The entries of a block mapping. -/
def blockEntries : Nat → Read (List (NodeId × NodeId))
  | 0 => outOfOrder .tooDeep
  | fuel + 1 => do
      match ← peek with
      | .key =>
          take
          let k ← blockNode true [.key, .value, .blockEnd] fuel
          let v ← blockValue fuel
          return (k, v) :: (← blockEntries fuel)
      | .blockEnd => take; return []
      | _ => outOfOrder .noBlockEnd

/-- The value of an entry of a flow collection that some token ends. -/
def flowValue (stop : Token) : Nat → Read NodeId
  | 0 => outOfOrder .tooDeep
  | fuel + 1 => do
      match ← peek with
      | .value => take; flowNode [.flowEntry, stop] fuel
      | _ => absent

/-- The items of a flow sequence from a comma on, or from its start; the token in front of them is
taken here.  A key among them starts a mapping of one entry. -/
def flowItems (first : Bool) : Nat → Read (List NodeId)
  | 0 => outOfOrder .tooDeep
  | fuel + 1 => do
      let t ← if first then advance else peek
      if t = .flowSequenceEnd then take; return []
      let t ← (if first then return t
        else if t = .flowEntry then advance
        else outOfOrder .noFlowEnd : Read Token)
      match t with
      | .flowSequenceEnd => take; return []
      | .key =>
          take
          let item ← mapping ⟨none, none⟩ (do
            let k ← flowNode [.value, .flowEntry, .flowSequenceEnd] fuel
            return [(k, ← flowValue .flowSequenceEnd fuel)])
          return item :: (← flowItems false fuel)
      | _ =>
          let item ← node false false fuel
          return item :: (← flowItems false fuel)

/-- The entries of a flow mapping from a comma on, or from its start; the token in front of them is
taken here.  A node without a mark is a key without a value. -/
def flowEntries (first : Bool) : Nat → Read (List (NodeId × NodeId))
  | 0 => outOfOrder .tooDeep
  | fuel + 1 => do
      let t ← if first then advance else peek
      if t = .flowMappingEnd then take; return []
      let t ← (if first then return t
        else if t = .flowEntry then advance
        else outOfOrder .noFlowEnd : Read Token)
      match t with
      | .flowMappingEnd => take; return []
      | .key =>
          take
          let k ← flowNode [.value, .flowEntry, .flowMappingEnd] fuel
          let v ← flowValue .flowMappingEnd fuel
          return (k, v) :: (← flowEntries false fuel)
      | _ =>
          let k ← node false false fuel
          let v ← absent
          return (k, v) :: (← flowEntries false fuel)

end

/-- The directives in front of a document, each of which may come once. -/
def directives (version : Bool) : Nat → List (String × String) → Read (List (String × String))
  | 0, handles => return handles
  | fuel + 1, handles => do
      match ← peek with
      | .directive (.version major _) =>
          take
          if version then outOfOrder .secondVersion
          if major != 1 then outOfOrder .unknownVersion
          directives true fuel handles
      | .directive (.tagHandle handle tagPrefix) =>
          take
          if (handles.lookup handle).isSome then outOfOrder (.secondHandle handle)
          directives version fuel ((handle, tagPrefix) :: handles)
      | .directive (.other _) => take; directives version fuel handles
      | _ => return handles

/-- The directives and the start of a document. -/
def documentStart (fuel : Nat) : Read Unit := do
  let handles ← directives false fuel []
  modify fun r => { r with handles := handles ++ standardHandles }
  match ← peek with
  | .documentStart => take
  | _ => outOfOrder .noDocumentStart

/-- Take the marks of document ends. -/
def documentEnds : Nat → Read Unit
  | 0 => return
  | fuel + 1 => do
      if (← peek) = .documentEnd then take; documentEnds fuel

/-- The node of the only document, if there is one. -/
def root (fuel : Nat) : Read (Option NodeId) := do
  let n ← (match ← peek with
    | .streamEnd => return none
    | .directive _ | .documentStart => do
        documentStart fuel
        match ← peek with
        | .directive _ | .documentStart | .documentEnd | .streamEnd => return some (← absent)
        | _ => return some (← node true false fuel)
    | _ => return some (← node true false fuel) : Read (Option NodeId))
  if n.isSome then
    documentEnds fuel
    if (← peek) != .streamEnd then
      documentStart fuel
      badReference .secondDocument
  return n

end Reader

/-- A document: its nodes, and the one that contains the others. -/
structure Document where
  nodes : Graph
  root : NodeId

/-- The document that a text holds, if it holds one. -/
def Document.ofText (s : List Char) (barrier : Option Char) : Except Fault (Option Document) := do
  let (root, r) ← (Reader.root (8 * s.length + 64)).run (.ofText s barrier)
  return root.map fun n => ⟨r.nodes, n⟩

end FormRules.Yaml
