import CallForest.Files.FileSystem
import CallForest.Text.Lines

/-!
# Source files

Where source files come from: from a list of paths, one to a line, or as the headers found below a
directory. Header discovery goes through the directories in the order of their entries and takes the
files with the extension `h`, except those in a directory that is to be skipped, unless one of their
directories is to be kept.
-/

namespace CallForest

/-- A source file: its path as it is listed, and the path under which it is found. -/
structure SourceEntry where
  shortPath : String
  fullPath : String
  deriving DecidableEq, Repr

namespace SourceEntry

/-- The entry of a path relative to `root`. -/
def under (root shortPath : String) : SourceEntry :=
  ⟨shortPath, Path.join root shortPath⟩

/-- The file's own name. -/
def name (e : SourceEntry) : String :=
  Path.lastPiece e.shortPath

/-- Whether the file is there. -/
def isPresent (fs : FileSystem) (e : SourceEntry) : Bool :=
  fs.isFile e.fullPath

end SourceEntry

/-- How many lines a content has; a last line that no newline ends counts. -/
def lineCount (content : Bytes) : Nat :=
  match content.getLast? with
  | none => 0
  | some last => content.count 10 + if last = 10 then 0 else 1

/-- Which headers to leave out: those in a directory of `skip`, unless one of their directories is
in `keep`. -/
structure HeaderFilter where
  skip : List String
  keep : List String
  deriving DecidableEq, Repr

/-- The filter that leaves out every architecture but x86. -/
def HeaderFilter.default : HeaderFilter := ⟨["arch"], ["x86"]⟩

/-- Whether a file in those directories is left out. -/
def HeaderFilter.excludes (filter : HeaderFilter) (directories : List String) : Bool :=
  directories.any (· ∈ filter.skip) && !directories.any (· ∈ filter.keep)

/-- Why there is no list of source files. -/
inductive SourceError where
  | rootNotDirectory (root : String)
  | unreadableList (path : String) (cause : OsError)
  | headerRootNotDirectory (root : String)
  /-- A directory below the root cannot be read. -/
  | unreadableDirectory (root path : String) (cause : OsError)
  deriving DecidableEq, Repr

/-- The text of an error. -/
def SourceError.message : SourceError → String
  | .rootNotDirectory root => "source path " ++ root ++ " is not a directory"
  | .unreadableList path _ => "Failed to read file list " ++ path
  | .headerRootNotDirectory root => "header path " ++ root ++ " is not a directory"
  | .unreadableDirectory root _ _ => "Failed to walk " ++ root

/-- The texts of what is behind an error, the nearest cause first. -/
def SourceError.causes : SourceError → List String
  | .unreadableList _ cause => [cause.message]
  | .unreadableDirectory _ path cause =>
    ["IO error for operation on " ++ path ++ ": " ++ cause.message, cause.message]
  | .rootNotDirectory _ | .headerRootNotDirectory _ => []

namespace SourceList

/-- The entries of a list document: its lines without the white space at their ends, as far as
something is left. -/
def ofDocument (root document : String) : List SourceEntry :=
  (((Text.lines document.toList).map Text.trimEnd).filter fun l => !l.isEmpty).map fun l =>
    .under root (String.ofList l)

/-- Loads a list document; its paths are relative to `root`. Entries that are not there are kept. -/
def load (fs : FileSystem) (listPath root : String) : Except SourceError (List SourceEntry) :=
  if fs.isDirectory root then
    match fs.readText listPath with
    | .ok document => .ok (ofDocument root document)
    | .error e => .error (.unreadableList listPath e)
  else .error (.rootNotDirectory root)

/-- A found header, or the note that it is left out. -/
inductive Discovery where
  | found (entry : SourceEntry)
  | excluded (shortPath : String)
  deriving DecidableEq, Repr

/-- Backslashes as slashes. -/
def slashed (path : String) : String :=
  String.ofList (path.toList.map fun c => if c = '\\' then '/' else c)

/-- The path along names below a directory. -/
def relativePath (names : List String) : String :=
  slashed (String.intercalate "/" names)

/-- The directories on a short path. -/
def directoriesOf (shortPath : String) : List String :=
  ((shortPath.toList.splitOn '/').dropLast).map String.ofList

/-- The path of a location below `root`. -/
def pathBelow (root : String) (names : List String) : String :=
  names.foldl Path.join root

/-- What a file at a location below `root` comes to. -/
def discover (filter : HeaderFilter) (root : String) (names : List String) : Option Discovery :=
  match names.getLast? with
  | none => none
  | some name =>
    if Path.nameExtension? name = some "h" then
      let shortPath := relativePath names
      if filter.excludes (directoriesOf shortPath) then some (.excluded shortPath)
      else some (.found ⟨shortPath, pathBelow root names⟩)
    else none

/-- Whether an entry below `root` is a directory whose path is too long to be read. -/
def isOutOfReach (root : String) (found : List String × Entry) : Bool :=
  found.2.isDirectory && FileSystem.maxPath ≤ Utf8.size (pathBelow root found.1)

/-- What the files among entries below `root` come to. -/
def discoveries (filter : HeaderFilter) (root : String) (found : List (List String × Entry)) :
    List Discovery :=
  found.filterMap fun (names, entry) =>
    match entry with
    | .file _ | .program _ => discover filter root names
    | .device _ | .link _ | .directory _ _ => none

/-- The headers among discoveries. -/
def Discovery.entry? : Discovery → Option SourceEntry
  | .found e => some e
  | .excluded _ => none

/-- The headers left out among discoveries. -/
def Discovery.excluded? : Discovery → Option String
  | .found _ => none
  | .excluded shortPath => some shortPath

/-- What a search for headers comes to: the headers left out, in order, and those found. -/
structure HeaderSearch where
  excluded : List String
  result : Except SourceError (List SourceEntry)

/-- Goes through the entries below `root`. The first directory that cannot be read ends the
search. -/
def search (filter : HeaderFilter) (root : String) (d : Directory) : HeaderSearch :=
  let all := d.entries []
  let reached := all.takeWhile fun found => !isOutOfReach root found
  let found := discoveries filter root reached
  { excluded := found.filterMap Discovery.excluded?
    result :=
      match all.drop reached.length with
      | [] => .ok (found.filterMap Discovery.entry?)
      | (names, _) :: _ => .error (.unreadableDirectory root (pathBelow root names) .nameTooLong) }

/-- Finds the headers below `root`. -/
def headers (fs : FileSystem) (filter : HeaderFilter) (root : String) : HeaderSearch :=
  match fs.readDirectory root with
  | .ok d => search filter root d
  | .error _ => ⟨[], .error (.headerRootNotDirectory root)⟩

end SourceList

end CallForest
