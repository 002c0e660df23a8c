import CallForest.Event
import CallForest.Files.FileSystem
import CallForest.Text.Decimal

/-!
# The log directory

Everything that a run writes beside the store: the raw output of collaborators, one directory for
each kind of it, and the drawn call trees.
-/

namespace CallForest

/-- The kinds of raw output. -/
inductive DumpKind where
  | edges
  | functions
  | complexity
  deriving DecidableEq, Repr

namespace DumpKind

/-- The directory of a kind. -/
def directory : DumpKind → String
  | edges => "edges"
  | functions => "functions"
  | complexity => "complexity"

/-- All kinds. -/
def all : List DumpKind := [edges, functions, complexity]

end DumpKind

/-- A log directory, and whether raw output is kept in it. -/
structure LogDirectory where
  root : String
  keepsOutput : Bool
  deriving DecidableEq, Repr

namespace LogDirectory

/-- The path of the directory of a kind. -/
def kindPath (d : LogDirectory) (kind : DumpKind) : String :=
  Path.join d.root kind.directory

/-- Slashes as hyphens. -/
def hyphenated (shortPath : String) : String :=
  String.ofList (shortPath.toList.map fun c => if c = '/' then '-' else c)

/-- Where the raw output for a source file goes. -/
def dumpPath (d : LogDirectory) (kind : DumpKind) (shortPath : String) : String :=
  Path.join (d.kindPath kind) (hyphenated shortPath ++ ".log")

/-- Where a drawn call tree goes. -/
def treePath (d : LogDirectory) (function : String) (depth : Nat) (extension : Option String) :
    String :=
  let stem := function ++ "-" ++ String.ofList (Text.decimal depth)
  Path.join d.root (match extension with | none => stem | some e => stem ++ "." ++ e)

/-- A directory that cannot be made. -/
structure CreateError where
  path : String
  cause : OsError
  deriving DecidableEq, Repr

/-- The text of the error. -/
def CreateError.message (e : CreateError) : String :=
  "Failed to create log directory " ++ e.path

/-- Makes the directories of the given kinds as far as they are missing. -/
def createKinds (d : LogDirectory) (fs : FileSystem) :
    List DumpKind → FileSystem × Except CreateError Unit
  | [] => (fs, .ok ())
  | kind :: kinds =>
    match fs.createDirectories (d.kindPath kind) with
    | (fs, .ok ()) => d.createKinds fs kinds
    | (fs, .error e) => (fs, .error ⟨d.kindPath kind, e⟩)

/-- Makes the log directory as far as it is missing. -/
def create (d : LogDirectory) (fs : FileSystem) : FileSystem × Except CreateError Unit :=
  d.createKinds fs DumpKind.all

/-- Keeps raw output, if it is to be kept. A failure is only noted. -/
def dump (d : LogDirectory) (kind : DumpKind) (shortPath text : String) (fs : FileSystem) :
    FileSystem × List Event :=
  if d.keepsOutput then
    let path := d.dumpPath kind shortPath
    match fs.write path (Utf8.encode text) with
    | (fs, .ok ()) => (fs, [])
    | (fs, .error e) => (fs, [.dumpFailed path e.message])
  else (fs, [])

end LogDirectory

end CallForest
