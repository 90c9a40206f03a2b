import FormRules.Text.Split
/-!
# Paths of files

A path is shown without empty parts and parts that name the directory itself; what begins with one
slash, or with more than two, is absolute, and two leading slashes are kept.
-/
namespace FormRules.Text

/-- The number of slashes that a path keeps at its front. -/
def leadingSlashes (s : List Char) : Nat :=
  match (s.takeWhile (· == '/')).length with
  | 0 => 0
  | 2 => 2
  | _ => 1

/-- The parts of a path that lead somewhere. -/
def pathParts (s : List Char) : List (List Char) :=
  (split '/' s).filter fun part => !part.isEmpty && part != ['.']

/-- A path as it is shown. -/
def normalPath (path : String) : String :=
  let s := path.toList
  let text := List.replicate (leadingSlashes s) '/' ++ join '/' (pathParts s)
  String.ofList (if text.isEmpty then ['.'] else text)

/-- The ending of a path's last part, from its last dot on; a dot at either end makes none. -/
def pathSuffix (path : String) : String :=
  match (pathParts path.toList).getLast? with
  | none => ""
  | some name => match afterLast? '.' name with
    | none => ""
    | some ending =>
        if ending.isEmpty || ending.length + 1 = name.length then ""
        else String.ofList ('.' :: ending)

end FormRules.Text
