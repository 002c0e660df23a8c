/-!
# Paths

A path is a text in which slashes separate names. Joining keeps a path as it was written; taking it
apart ignores repeated slashes and names that stand for the directory they are in.
-/

namespace CallForest.Path

/-- Whether a path starts at the root. -/
def isAbsolute (path : String) : Bool :=
  path.toList.head? == some '/'

/-- A path without the slashes at its end; a root stays. -/
def withoutSlashes (path : String) : String :=
  match path.toList.reverse.dropWhile (· = '/') with
  | [] => if path.isEmpty then "" else "/"
  | cs => String.ofList cs.reverse

/-- Whether the last name on a path stands for a directory it is in. -/
def endsInDots (path : String) : Bool :=
  match path.toList.reverse.dropWhile (· = '/') with
  | ['.'] | ['.', '.'] | '.' :: '/' :: _ | '.' :: '.' :: '/' :: _ => true
  | _ => false

/-- The path that leads from `root` along `path`. An absolute path leads away from `root`. -/
def join (root path : String) : String :=
  if isAbsolute path then path
  else if root.isEmpty || root.toList.getLast? == some '/' then root ++ path
  else root ++ "/" ++ path

/-- The pieces of a path between its slashes, empty ones left out. -/
def pieces (path : String) : List String :=
  ((path.toList.splitOn '/').filter fun p => !p.isEmpty).map String.ofList

/-- The names on a path: its pieces without the dots behind the first. -/
def components (path : String) : List String :=
  match pieces path with
  | [] => []
  | p :: ps =>
    let rest := ps.filter (· ≠ ".")
    if isAbsolute path && p == "." then rest else p :: rest

/-- The last name on a path, if the path ends in one. -/
def fileName? (path : String) : Option String :=
  match (components path).getLast? with
  | some n => if n = ".." ∨ n = "." then none else some n
  | none => none

/-- What follows the last dot of a file name. A name with no dot, or with none but its first
character, has no extension. -/
def nameExtension? (name : String) : Option String :=
  let reversed := name.toList.reverse
  let ending := reversed.takeWhile (· ≠ '.')
  match reversed.drop ending.length with
  | _ :: _ :: _ => some (String.ofList ending.reverse)
  | _ => none

/-- The extension of the last name on a path. -/
def extension? (path : String) : Option String :=
  (fileName? path).bind nameExtension?

/-- What follows the last slash; the whole text if there is none. -/
def lastPiece (path : String) : String :=
  String.ofList (path.toList.reverse.takeWhile (· ≠ '/')).reverse

/-- The beginning of a path without the slashes and the dots that stand for the same directory at
its end; both are reversed. A root, or a dot in front, stays. -/
def trimmedBack : List Char → List Char
  | '/' :: c :: cs => trimmedBack (c :: cs)
  | '.' :: '/' :: cs => trimmedBack ('/' :: cs)
  | cs => cs

/-- The path of the directory that a path's last name stands in, as it was written; empty for a name
alone. A root has none. -/
def parent? (path : String) : Option String :=
  match trimmedBack path.toList.reverse with
  | [] | ['/'] => none
  | ['.'] => some ""
  | cs => some (String.ofList (trimmedBack (cs.dropWhile (· ≠ '/'))).reverse)

/-- A path and the directories it stands in, the innermost first. The first argument bounds their
number. -/
def ancestorsFrom : Nat → String → List String
  | 0, _ => []
  | steps + 1, path =>
    match parent? path with
    | some above => path :: ancestorsFrom steps above
    | none => [path]

/-- A path and the directories it stands in, the innermost first. -/
def ancestors (path : String) : List String :=
  ancestorsFrom (path.length + 1) path

end CallForest.Path
