/-!
# Paths

A path is a text; what it names is told by its components. Repeated slashes, a slash at the end and
single dots behind the first component do not count, and two dots are kept.
-/

namespace LivePreview.Files

/-- A component of a path. -/
inductive Component where
  | root
  /-- A single dot in front. -/
  | here
  /-- Two dots. -/
  | above
  | name (text : List Char)
deriving DecidableEq, Repr

namespace Path

/-- The parts of a text between its slashes. -/
def splitSlash : List Char → List (List Char)
  | [] => [[]]
  | '/' :: cs => [] :: splitSlash cs
  | c :: cs =>
    match splitSlash cs with
    | part :: parts => (c :: part) :: parts
    | [] => [[c]]

/-- The component that a part of a path stands for. -/
def component? (part : List Char) : Option Component :=
  match part with
  | [] => none
  | ['.'] => none
  | ['.', '.'] => some .above
  | part => some (.name part)

/-- The components of a path. -/
def components (path : List Char) : List Component :=
  let parts := splitSlash path
  let front : List Component :=
    match parts with
    | [] :: _ :: _ => [.root]
    | ['.'] :: _ => [.here]
    | _ => []
  front ++ parts.filterMap component?

/-- The steps that a path tells to take; a dot is a step too, since it can be taken in a directory
only. -/
def steps (path : List Char) : List Component :=
  let front : List Component := if path.head? == some '/' then [.root] else []
  front ++ ((splitSlash path).filter (!·.isEmpty)).map fun part =>
    (component? part).getD .here

/-- The last component of a path, if it is a name. -/
def fileName? (path : List Char) : Option (List Char) :=
  match (components path).getLast? with
  | some (.name text) => some text
  | _ => none

/-- The name of a path in messages: its last component, or all of it if that is no name. -/
def shortName (path : String) : String :=
  match fileName? path.toList with
  | some name => String.ofList name
  | none => path

/-- What stands behind the last dot of a path's name, unless the name starts with that dot. -/
def extension? (path : List Char) : Option (List Char) :=
  match fileName? path with
  | none => none
  | some name =>
    let after := (name.reverse.takeWhile (· != '.')).reverse
    if after.length + 1 < name.length then some after else none

/-- The components of a path from the root on, relative paths being below the working directory. The
empty path stays empty, and a relative path stays as it is where the working directory cannot be
told. -/
def absolute (cwd : Option (List Char)) (path : List Char) : List Component :=
  match components path, cwd with
  | [], _ => []
  | .root :: rest, _ => .root :: rest
  | .here :: rest, some directory => components directory ++ rest
  | rest, some directory => components directory ++ rest
  | rest, none => rest

/-- A path from components. -/
def ofComponents : List Component → List Char
  | [] => []
  | [.root] => ['/']
  | [c] => text c
  | .root :: rest => '/' :: ofComponents rest
  | c :: rest => text c ++ '/' :: ofComponents rest
where
  /-- The text of a component. -/
  text : Component → List Char
    | .root => []
    | .here => ['.']
    | .above => ['.', '.']
    | .name text => text

/-- The path of a name below a directory; a name that starts at the root is below none. -/
def join (directory name : String) : String :=
  if directory.isEmpty || name.toList.head? == some '/' then name
  else if directory.toList.getLast? == some '/' then directory ++ name
  else directory ++ "/" ++ name

/-- Parts behind the first, without those at the end that do not count. -/
def trimParts : List (List Char) → List (List Char)
  | [] => []
  | part :: parts =>
    let rest := trimParts parts
    if rest.isEmpty && (component? part).isNone then [] else part :: rest

/-- The path without its last component, if it has one besides the root. The rest is as it is
written. -/
def parent? (path : List Char) : Option (List Char) :=
  match splitSlash path with
  | [] | [[]] => none
  | first :: parts =>
    let parts := trimParts parts
    if parts.isEmpty then if first.isEmpty then none else some []
    else
      match first, trimParts parts.dropLast with
      | [], [] => some ['/']
      | first, parts => some (['/'].intercalate (first :: parts))

end Path

end LivePreview.Files
