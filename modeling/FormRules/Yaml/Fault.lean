import FormRules.Failure
/-!
# Why a text is no document

A text fails as a document at the first stage that cannot go on: its characters, its tokens, the
order of the tokens, the references between nodes, or what the nodes stand for.  A scalar whose
text fits its tag may still denote no value; that is a failure of its own.
-/
namespace FormRules.Yaml

/-- Characters that form no token where they stand. -/
inductive TokenFault where
  | noToken (c : Char)
  /-- A line that must hold a key has no colon behind it. -/
  | keyWithoutValue
  | entryNotAllowed
  | keyNotAllowed
  | valueNotAllowed
  | directive
  | referenceName
  | tag
  | blockHeader
  | unclosedQuote
  | markerInQuote
  | escape
deriving DecidableEq, Repr

/-- A token that cannot follow the ones before it. -/
inductive OrderFault where
  | noDocumentStart
  | noNode
  | noBlockEnd
  | noFlowEnd
  | secondVersion
  | unknownVersion
  | secondHandle (handle : String)
  | undefinedHandle (handle : String)
  /-- Nodes are nested more deeply than the text is long. -/
  | tooDeep
deriving DecidableEq, Repr

/-- Names of nodes that do not fit together. -/
inductive ReferenceFault where
  | undefinedAlias (name : String)
  | secondAnchor (name : String)
  | secondDocument
deriving DecidableEq, Repr

/-- A node that stands for no value. -/
inductive NodeFault where
  | unknownTag (tag : String)
  /-- The tag is one of another kind of nodes. -/
  | otherKind
  | keyCannotBeCompared
  | cannotBeMerged
  | notOnePair
  /-- Bytes are not written as they have to be. -/
  | notBytes
deriving DecidableEq, Repr

/-- Why a text is no document. -/
inductive Fault where
  | character (c : Char)
  | token (fault : TokenFault)
  | order (fault : OrderFault)
  | reference (fault : ReferenceFault)
  | node (fault : NodeFault)
  | content (failure : Failure)
deriving Inhabited

end FormRules.Yaml
