import CallForest.Event
import CallForest.Text.Decimal
import CallForest.Tree.Export

/-!
# Options of the command line

The command line names a store and says which passes to run and what to draw. Arguments are read in
order, and the first that cannot be read, or asks for help or the version, decides.
-/

namespace CallForest.Cli

/-- Which events are shown. -/
inductive LogLevel where
  | critical
  | error
  | warning
  | info
  | debug
  | none
  deriving DecidableEq, Repr

namespace LogLevel

/-- The names of the levels. -/
def named : List (String × LogLevel) :=
  [("critical", critical), ("error", error), ("warning", warning), ("info", info),
    ("debug", debug), ("none", none)]

/-- Whether events of a severity are shown. -/
def shows : LogLevel → Severity → Bool
  | none, _ => false
  | critical, s | error, s => s == .error
  | warning, s => s == .error || s == .warn
  | info, s => s != .debug
  | debug, _ => true

end LogLevel

/-- What the arguments ask for. -/
structure Options where
  store : Option String
  config : Option String
  fileList : Option String
  sourcePath : Option String
  indexFiles : Bool
  indexFunctions : Bool
  indexEdges : Bool
  complexity : Bool
  indexHeaders : Option String
  skipUnresolved : List String
  drawFunction : Option String
  drawDepth : Option Nat
  format : Option TreeFormat
  logDirectory : Option String
  logLevel : Option LogLevel
  deriving DecidableEq, Repr

/-- The options before the first argument is read. -/
def Options.none : Options where
  store := .none
  config := .none
  fileList := .none
  sourcePath := .none
  indexFiles := false
  indexFunctions := false
  indexEdges := false
  complexity := false
  indexHeaders := .none
  skipUnresolved := []
  drawFunction := .none
  drawDepth := .none
  format := .none
  logDirectory := .none
  logLevel := .none

/-- Why arguments are refused. -/
inductive UsageError where
  | unexpected (argument : String)
  | repeated (option : String)
  | noValue (option : String)
  | badValue (option value : String)
  | noStore
  deriving DecidableEq, Repr

/-- The text of a refusal. -/
def UsageError.message : UsageError → String
  | unexpected argument => "unexpected argument '" ++ argument ++ "' found"
  | repeated option => "the argument '" ++ option ++ "' cannot be used multiple times"
  | noValue option => "a value is required for '" ++ option ++ "' but none was supplied"
  | badValue option value => "invalid value '" ++ value ++ "' for '" ++ option ++ "'"
  | noStore => "the following required arguments were not provided:\n  <STORE>"

namespace Options

/-- Fills an option that is not filled yet. -/
def fill {α : Type} (option : String) (old : Option α) (value : α) (set : α → Options) :
    Except UsageError Options :=
  match old with
  | some _ => .error (.repeated option)
  | .none => .ok (set value)

/-- Fills an option with a path; a path is not empty. -/
def fillPath (option : String) (old : Option String) (value : String) (set : String → Options) :
    Except UsageError Options :=
  if value.isEmpty then .error (.noValue option) else fill option old value set

/-- Fills an option with what a reader makes of its value. -/
def fillRead {α : Type} (option : String) (old : Option α) (value : String)
    (read : String → Option α) (set : α → Options) : Except UsageError Options :=
  match read value with
  | some v => fill option old v set
  | .none => .error (.badValue option value)

/-- Takes the store, the only argument that is no option. -/
def takeStore (o : Options) (value : String) : Except UsageError Options :=
  match o.store with
  | some _ => .error (.unexpected value)
  | .none =>
    if value.isEmpty then .error (.noValue "<STORE>") else .ok { o with store := some value }

/-- The change that an option with a value makes; none if it is no such option. -/
def setValue? (o : Options) (option value : String) : Option (Except UsageError Options) :=
  match option with
  | "--config" => some (fillPath option o.config value fun v => { o with config := some v })
  | "--file-list" => some (fillPath option o.fileList value fun v => { o with fileList := some v })
  | "--source-path" =>
    some (fillPath option o.sourcePath value fun v => { o with sourcePath := some v })
  | "--index-headers" =>
    some (fillPath option o.indexHeaders value fun v => { o with indexHeaders := some v })
  | "--log-dir" =>
    some (fillPath option o.logDirectory value fun v => { o with logDirectory := some v })
  | "--skip-unresolved" => some (.ok { o with skipUnresolved := o.skipUnresolved ++ [value] })
  | "--draw-function" =>
    some (fill option o.drawFunction value fun v => { o with drawFunction := some v })
  | "--draw-depth" =>
    some (fillRead option o.drawDepth value (fun s => Text.naturalBelow? UInt64.size s.toList)
      fun v => { o with drawDepth := some v })
  | "--format" =>
    some (fillRead option o.format value
      (fun s => if s = "text" then some .text else if s = "json" then some .json else .none)
      fun v => { o with format := some v })
  | "--log-level" =>
    some (fillRead option o.logLevel value (fun s => LogLevel.named.lookup s)
      fun v => { o with logLevel := some v })
  | _ => .none

/-- The paths among the values. -/
def paths (o : Options) : List String :=
  [o.store, o.config, o.fileList, o.sourcePath, o.indexHeaders, o.logDirectory].filterMap id

/-- Whether an option takes a value. -/
def takesValue (option : String) : Bool :=
  (setValue? .none option "").isSome

/-- The change that an option without a value makes; none if it is no such option. -/
def setFlag? (o : Options) (option : String) : Option (Except UsageError Options) :=
  let once (old : Bool) (set : Options) : Except UsageError Options :=
    if old then .error (.repeated option) else .ok set
  match option with
  | "--index-files" => some (once o.indexFiles { o with indexFiles := true })
  | "--index-functions" => some (once o.indexFunctions { o with indexFunctions := true })
  | "--index-edges" => some (once o.indexEdges { o with indexEdges := true })
  | "--complexity" => some (once o.complexity { o with complexity := true })
  | _ => .none

end Options

/-- What the arguments come to. -/
inductive Request where
  | run (options : Options)
  | help
  | version
  | refused (e : UsageError)
  deriving DecidableEq, Repr

/-- Whether an argument looks like an option. A single hyphen does not. -/
def isOption (arg : String) : Bool :=
  match arg.toList with
  | '-' :: _ :: _ => true
  | _ => false

/-- An argument up to its first equals sign, and what stands behind that sign. -/
def splitValue (arg : String) : String × Option String :=
  let cs := arg.toList
  let name := cs.takeWhile (· ≠ '=')
  match cs.drop name.length with
  | _ :: value => (String.ofList name, some (String.ofList value))
  | [] => (arg, none)

/-- Reads arguments on. Behind `--`, which sets the flag, none is an option. -/
def readArguments : Bool → Options → List String → Request
  | _, o, [] => if o.store.isSome then .run o else .refused .noStore
  | true, o, arg :: args =>
    match o.takeStore arg with
    | .ok o => readArguments true o args
    | .error e => .refused e
  | false, o, arg :: args =>
    if arg = "--" then readArguments true o args
    else if !isOption arg then
      match o.takeStore arg with
      | .ok o => readArguments false o args
      | .error e => .refused e
    else if "-h".toList.isPrefixOf arg.toList then .help
    else if "-V".toList.isPrefixOf arg.toList then .version
    else
      match splitValue arg with
      | (option, some value) =>
        match o.setValue? option value with
        | some (.ok o) => readArguments false o args
        | some (.error e) => .refused e
        | none => .refused (.unexpected arg)
      | (option, none) =>
        if option = "--help" then .help
        else if option = "--version" then .version
        else if Options.takesValue option then
          match args with
          | [] => .refused (.noValue option)
          | value :: args =>
            if isOption value then .refused (.noValue option)
            else
              match o.setValue? option value with
              | some (.ok o) => readArguments false o args
              | some (.error e) => .refused e
              | none => .refused (.unexpected arg)
        else
          match o.setFlag? option with
          | some (.ok o) => readArguments false o args
          | some (.error e) => .refused e
          | none => .refused (.unexpected arg)

/-- What the arguments of a command line ask for. -/
def Request.ofArguments (args : List String) : Request :=
  readArguments false .none args

/-- The help text. -/
def helpText : String :=
  "Call Trees - rebuild call graphs from cflow-style indented listings, store them, and render " ++
  "bounded-depth call trees.\n\n" ++
  "Usage: calltrees [OPTIONS] <STORE>\n\n" ++
  "Arguments:\n" ++
  "  <STORE>  Graph store location (created if missing)\n\n" ++
  "Options:\n" ++
  "      --config <CONFIG>\n" ++
  "          Configuration file (defaults to ./calltrees.toml when present)\n" ++
  "      --file-list <FILE_LIST>\n" ++
  "          File containing the list of source files to scan, one per line\n" ++
  "      --source-path <SOURCE_PATH>\n" ++
  "          Root the listed source files are relative to\n" ++
  "      --index-files\n" ++
  "          Index files\n" ++
  "      --index-functions\n" ++
  "          Index function definitions\n" ++
  "      --index-edges\n" ++
  "          Index edges (function calls)\n" ++
  "      --complexity\n" ++
  "          Attach complexity metrics to indexed functions\n" ++
  "      --index-headers <INDEX_HEADERS>\n" ++
  "          Index functions and complexity from header files below this directory\n" ++
  "      --skip-unresolved <SKIP_UNRESOLVED>\n" ++
  "          Unresolved name that should never produce an edge (repeatable)\n" ++
  "      --draw-function <DRAW_FUNCTION>\n" ++
  "          Draw the call tree of this function\n" ++
  "      --draw-depth <DRAW_DEPTH>\n" ++
  "          Depth bound of the call tree [default: 1]\n" ++
  "      --format <FORMAT>\n" ++
  "          Call tree output format [default: text] [possible values: text, json]\n" ++
  "      --log-dir <LOG_DIR>\n" ++
  "          Log directory (overrides the config file)\n" ++
  "      --log-level <LOG_LEVEL>\n" ++
  "          Logging level (falls back to RUST_LOG, then info) [possible values: critical, " ++
  "error, warning, info, debug, none]\n" ++
  "  -h, --help\n" ++
  "          Print help\n" ++
  "  -V, --version\n" ++
  "          Print version\n"

end CallForest.Cli
