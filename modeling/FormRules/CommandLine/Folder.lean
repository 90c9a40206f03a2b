import FormRules.Text.FilePath
import FormRules.Text.HalfPair
/-!
# Files by path

The tools see the file system as a function from paths to what they lead to, so that a folder of
texts can stand for it.  A path is followed part by part, and every part but the last must be a
directory.  Of what lies outside of the folder only the directories above it are known and those
that every system has at its root.
-/
namespace FormRules.CommandLine

/-- Why a path cannot even be looked up. -/
inductive PathFault where
  /-- It holds the character that ends paths. -/
  | endMark
  /-- It holds half of a pair. -/
  | halfPair
deriving DecidableEq, Repr

/-- What a path leads to. -/
inductive PathEntry where
  | missing
  | directory
  | file (text : String)
  | unusable (fault : PathFault)
deriving Repr, Inhabited

/-- What paths lead to. -/
abbrev Folder := String → PathEntry

namespace Folder

/-- Where a part of a path leads.  Names stand with the innermost first. -/
inductive Place where
  | inside (names : List String)
  /-- A directory above the folder. -/
  | above
  | system (names : List String)
deriving DecidableEq, Repr

/-- The directories that every system has at its root. -/
def systemDirectories : List String :=
  ["bin", "boot", "dev", "etc", "home", "lib", "media", "mnt", "opt", "proc", "root", "run",
    "sbin", "srv", "sys", "tmp", "usr", "var"]

/-- Files by the names on their paths, the innermost first. -/
abbrev Contents := List (List String × String)

namespace Place

/-- What there is at a place. -/
def entry (files : Contents) : Place → PathEntry
  | inside names =>
      match files.lookup names with
      | some text => .file text
      | none =>
          if names.isEmpty || files.any fun e => names.isSuffixOf e.1 then .directory
          else .missing
  | above => .directory
  | system [] => .directory
  | system [name] => if systemDirectories.contains name then .directory else .missing
  | system ["null", "dev"] => .file ""
  | system _ => .missing

/-- The directory around a place. -/
def parent : Place → Place
  | inside [] => above
  | inside (_ :: names) => inside names
  | above => above
  | system names => system names.tail

/-- The place of a name in a directory, if it can be known. -/
def child? : Place → String → Option Place
  | inside names, name => some (inside (name :: names))
  | above, _ => none
  | system names, name => some (system (name :: names))

/-- The place that a part of a path leads to from a place, if that is a directory. -/
def follow? (files : Contents) (place : Place) (part : String) : Option Place :=
  match place.entry files with
  | .directory =>
      if part = "" ∨ part = "." then some place
      else if part = ".." then some place.parent
      else place.child? part
  | _ => none

end Place

/-- The parts of a path between its slashes. -/
def partsOf (path : String) : List String := (Text.split '/' path.toList).map String.ofList

/-- The names on the path of a file, the innermost first. -/
def namesOf (path : String) : List String :=
  (partsOf path).foldl (fun names part =>
    if part = "" ∨ part = "." then names
    else if part = ".." then names.tail
    else part :: names) []

/-- A folder of files by path.  Of several files with one path the last one is there. -/
def ofFiles (files : List (String × String)) : Folder := fun path =>
  let contents : Contents := (files.map fun e => (namesOf e.1, e.2)).reverse
  let start := if path.startsWith "/" then Place.system [] else .inside []
  if path.toList.any fun c => Text.halfPair? c |>.any fun code => !Text.isByteMark code then
    .unusable .halfPair
  else if path.contains '\x00' then .unusable .endMark
  else if path.isEmpty then .missing
  else match (partsOf path).foldlM (Place.follow? contents) start with
    | some place => place.entry contents
    | none => .missing

end Folder

end FormRules.CommandLine
