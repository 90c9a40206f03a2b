/-!
# Tokens of documents

Scalars come with their text as it is meant, without quotes, escapes and folded lines.  The start
and the end of block collections, which no character stands for, are tokens as well.
-/
namespace FormRules.Yaml

/-- An instruction in front of a document. -/
inductive Directive where
  | version (major minor : Nat)
  | tagHandle (handle tagPrefix : String)
  | other (name : String)
deriving DecidableEq, Repr

/-- A tag as it is written: a suffix behind a handle, or a whole tag. -/
structure WrittenTag where
  handle : Option String
  suffix : String
deriving DecidableEq, Repr

/-- A token of a document. -/
inductive Token where
  | streamEnd
  | directive (d : Directive)
  | documentStart
  | documentEnd
  | blockSequenceStart
  | blockMappingStart
  | blockEnd
  | flowSequenceStart
  | flowSequenceEnd
  | flowMappingStart
  | flowMappingEnd
  | blockEntry
  | flowEntry
  | key
  | value
  | alias (name : String)
  | anchor (name : String)
  | tag (tag : WrittenTag)
  /-- A scalar; a plain one has no quotes and no header. -/
  | scalar (text : String) (plain : Bool)
deriving DecidableEq, Repr

end FormRules.Yaml
