import CallForest.Collaborator
import CallForest.LogDirectory
import CallForest.Source
import CallForest.Toml.Document

/-!
# Configuration

What a configuration file can set, with the values that hold where it sets nothing, and how the file
is read. A section is a table, or an array of its fields in their order; keys that no section knows
are ignored, and a value of another kind than its field's makes the file invalid.
-/

namespace CallForest

/-- How the extractor is run. -/
structure ExtractorConfig where
  program : String
  /-- Arguments for the listing of calls. -/
  treeArgs : List String
  /-- Arguments for the listing of definitions. -/
  xrefArgs : List String
  /-- Seconds after which the extractor is stopped. -/
  timeout : Option Nat
  /-- A line in front of the source in the scratch copy. -/
  prelude : Option String
  deriving DecidableEq, Repr

/-- How the analyzer is run. -/
structure AnalyzerConfig where
  program : String
  args : List String
  timeout : Option Nat
  deriving DecidableEq, Repr

/-- Where output goes. -/
structure OutputConfig where
  logDirectory : String
  logFile : String
  keepsOutput : Bool
  deriving DecidableEq, Repr

/-- A configuration. -/
structure Config where
  extractor : ExtractorConfig
  analyzer : AnalyzerConfig
  /-- Names that make no edges unless they are registered. -/
  skipUnresolved : List String
  headers : HeaderFilter
  output : OutputConfig
  deriving DecidableEq, Repr

/-- The configuration that holds where nothing is set. -/
def Config.default : Config where
  extractor := ⟨"cflow", [], ["-x", "-i", "_st"], none, none⟩
  analyzer := ⟨"lizard", ["--csv"], none⟩
  skipUnresolved := []
  headers := .default
  output := ⟨"calltreelog", "calltrees.log", false⟩

namespace Config

/-! ## Reading values -/

/-- The fields of a section, by position and name. -/
abbrev Section := Nat → String → Option Toml.Value

/-- The fields of a section that is a table or an array. A date-time is a section none of whose
fields is set. -/
def section? : Toml.Value → Option Section
  | .table entries => some fun _ name => (entries.find? fun e => e.1 = name).map Prod.snd
  | .array items => some fun position _ => items[position]?
  | .dateTime _ => some fun _ _ => none
  | _ => none

/-- Reads a text. -/
def text? : Toml.Value → Option String
  | .string s => some s
  | _ => none

/-- Reads a list of texts. -/
def texts? : Toml.Value → Option (List String)
  | .array items => items.mapM text?
  | _ => none

/-- Reads a number that is not negative. -/
def count? : Toml.Value → Option Nat
  | .integer n => if 0 ≤ n then some n.toNat else none
  | _ => none

/-- Reads a truth value. -/
def flag? : Toml.Value → Option Bool
  | .boolean b => some b
  | _ => none

/-- Reads a field of a section. One that is not set has its default; one that is set but cannot be
read makes the section invalid. -/
def field {α : Type} (s : Section) (position : Nat) (name : String) (read : Toml.Value → Option α)
    (default : α) : Option α :=
  match s position name with
  | none => some default
  | some v => read v

/-- Reads how the extractor is run. -/
def extractor? (default : ExtractorConfig) (v : Toml.Value) : Option ExtractorConfig := do
  let s ← section? v
  return {
    program := ← field s 0 "program" text? default.program
    treeArgs := ← field s 1 "tree_args" texts? default.treeArgs
    xrefArgs := ← field s 2 "xref_args" texts? default.xrefArgs
    timeout := ← field s 3 "timeout_secs" (fun v => (count? v).map some) default.timeout
    prelude := ← field s 4 "prelude" (fun v => (text? v).map some) default.prelude }

/-- Reads how the analyzer is run. -/
def analyzer? (default : AnalyzerConfig) (v : Toml.Value) : Option AnalyzerConfig := do
  let s ← section? v
  return {
    program := ← field s 0 "program" text? default.program
    args := ← field s 1 "args" texts? default.args
    timeout := ← field s 2 "timeout_secs" (fun v => (count? v).map some) default.timeout }

/-- Reads the names that make no edges. -/
def reconstruct? (default : List String) (v : Toml.Value) : Option (List String) := do
  field (← section? v) 0 "skip_unresolved" texts? default

/-- Reads which headers are left out. -/
def headers? (default : HeaderFilter) (v : Toml.Value) : Option HeaderFilter := do
  let s ← section? v
  return {
    skip := ← field s 0 "skip_dirs" texts? default.skip
    keep := ← field s 1 "keep_dirs" texts? default.keep }

/-- Reads where output goes. -/
def output? (default : OutputConfig) (v : Toml.Value) : Option OutputConfig := do
  let s ← section? v
  return {
    logDirectory := ← field s 0 "log_dir" text? default.logDirectory
    logFile := ← field s 1 "log_file" text? default.logFile
    keepsOutput := ← field s 2 "dump_collaborator_output" flag? default.keepsOutput }

/-- Reads a configuration. -/
def ofValue? (v : Toml.Value) : Option Config := do
  let s ← section? v
  return {
    extractor := ← field s 0 "extractor" (extractor? default.extractor) default.extractor
    analyzer := ← field s 1 "complexity" (analyzer? default.analyzer) default.analyzer
    skipUnresolved :=
      ← field s 2 "reconstruct" (reconstruct? default.skipUnresolved) default.skipUnresolved
    headers := ← field s 3 "headers" (headers? default.headers) default.headers
    output := ← field s 4 "output" (output? default.output) default.output }

/-! ## Reading files -/

/-- Why there is no configuration. -/
inductive Error where
  | unreadable (path : String) (cause : OsError)
  | invalid (path : String)
  deriving DecidableEq, Repr

/-- The text of an error. -/
def Error.message : Error → String
  | .unreadable path _ => "Failed to read config " ++ path
  | .invalid path => "Invalid config " ++ path

/-- The error of the operating system behind an error. -/
def Error.cause? : Error → Option String
  | .unreadable _ cause => some cause.message
  | .invalid _ => none

/-- Loads a configuration file. -/
def load (fs : FileSystem) (path : String) : Except Error Config :=
  match fs.readText path with
  | .error e => .error (.unreadable path e)
  | .ok document =>
    match (Toml.parse document).bind ofValue? with
    | some c => .ok c
    | none => .error (.invalid path)

/-- The files that are looked for if none is named. -/
def candidates : List String := ["calltrees.toml", ".calltrees.toml"]

/-- Loads the file that is named; if none is, the first candidate that is there; if none is there,
the defaults hold. -/
def loadOrDefault (fs : FileSystem) (path : Option String) : Except Error Config :=
  match path with
  | some p => load fs p
  | none =>
    match candidates.find? fs.exists? with
    | some p => load fs p
    | none => .ok default

end Config

/-! ## Collaborators of a configuration -/

namespace ExtractorConfig

/-- The command for a listing, without the file. -/
def commandSpec (c : ExtractorConfig) : ListingKind → CommandSpec
  | .callTree => ⟨c.program, c.treeArgs⟩
  | .crossReference => ⟨c.program, c.xrefArgs⟩

/-- The extractor that runs a program of the host on copies in a scratch directory. -/
def extractor (c : ExtractorConfig) (host : Host) (scratch : String) : Extractor where
  probe := probeProgram host c.program
  listing kind := runOnCopy host (c.commandSpec kind) c.timeout c.prelude scratch

end ExtractorConfig

/-- The analyzer that runs a program of the host on copies in a scratch directory. -/
def AnalyzerConfig.analyzer (c : AnalyzerConfig) (host : Host) (scratch : String) : Analyzer where
  probe := probeProgram host c.program
  report := runOnCopy host ⟨c.program, c.args⟩ c.timeout none scratch

end CallForest
