import CallForest.Cli.Options
import CallForest.Config
import CallForest.Graph.Archive
import CallForest.Ingest

/-!
# Runs of the command line

A run opens the store, goes through its stages in a fixed order, and saves the store: the passes
over a file list, the passes over headers, and a drawing. The first stage that fails ends the run;
what was entered before stays.
-/

namespace CallForest.Cli

/-- The name and the version of the program. -/
def programName : String := "calltrees"

/-- The version of the program. -/
def version : String := "0.1.0"

/-- Why a run fails. -/
inductive Failure where
  | config (e : Config.Error)
  | logFile (path : String) (cause : OsError)
  | logDirectory (e : LogDirectory.CreateError)
  | store (path : String) (cause : OsError)
  | source (e : SourceError)
  /-- A pass is asked for without a list of files. -/
  | noFileList
  | collaborator (e : CollaboratorError)
  | draw (e : DrawError)
  deriving DecidableEq, Repr

namespace Failure

/-- The text of a failure. -/
def message : Failure → String
  | config e => e.message
  | logFile path _ => "Cannot open log file " ++ path
  | logDirectory e => e.message
  | store path _ => "Failed to open store " ++ path
  | source e => e.message
  | noFileList => "indexing needs both --file-list and --source-path"
  | collaborator e => e.message
  | draw e => e.message

/-- The texts of what is behind a failure, the nearest cause first. -/
def causes : Failure → List String
  | config e => e.cause?.toList
  | logFile _ cause => [cause.message]
  | logDirectory e => [e.cause.message]
  | store _ cause => ["IO error: " ++ cause.message]
  | source e => e.causes
  | noFileList => []
  | collaborator e => (e.cause?.map OsError.message).toList
  | draw (.notCreated _ cause) => [cause.message]
  | draw _ => []

/-- A text whose further lines are indented. -/
def indented (margin : String) (text : String) : String :=
  String.intercalate ("\n" ++ margin) ((text.toList.splitOn '\n').map String.ofList)

/-- Causes as they are listed: indented, and numbered if there are several. -/
def causeText : List String → String
  | [] => ""
  | [cause] => "\nCaused by:\n    " ++ indented "    " cause ++ "\n"
  | causes =>
    "\nCaused by:\n" ++
      String.join (causes.zipIdx.map fun (cause, n) =>
        let number := Text.decimal n
        String.ofList (List.replicate (5 - number.length) ' ' ++ number) ++ ": " ++
          indented "       " cause ++ "\n")

/-- What a failure puts on the error output. -/
def report : Failure → String
  | draw (.originNotFound _) => "function not found in database\n"
  | f => "Error: " ++ f.message ++ "\n" ++ causeText f.causes

/-- The event that a failure logs. -/
def event? : Failure → Option Event
  | draw (.originNotFound function) => some (.originNotFound function)
  | _ => none

end Failure

/-! ## Stages -/

/-- A stage of a run: it changes the site and prints, or fails. -/
abbrev Stage := Site Archive → Site Archive × Except Failure String

/-- Goes through stages until one fails. -/
def inOrder : List Stage → Stage
  | [], site => (site, .ok "")
  | stage :: stages, site =>
    match stage site with
    | (site, .error e) => (site, .error e)
    | (site, .ok printed) =>
      match inOrder stages site with
      | (site, .error e) => (site, .error e)
      | (site, .ok more) => (site, .ok (printed ++ more))

/-- A pass as a stage. -/
def passStage {α : Type} (pass : Site Archive → Site Archive × Except CollaboratorError α) :
    Stage := fun site =>
  match pass site with
  | (site, .ok _) => (site, .ok "")
  | (site, .error e) => (site, .error (.collaborator e))

/-- The passes over a file list that are asked for. -/
def passes (o : Options) (w : Workshop) (entries : List SourceEntry) : List Stage :=
  (if o.indexFiles then [passStage (Ingest.indexFiles entries)] else []) ++
  (if o.indexFunctions then [passStage (Ingest.indexFunctions w entries)] else []) ++
  (if o.indexEdges then [passStage (Ingest.indexEdges w entries)] else []) ++
  (if o.complexity then [passStage (Ingest.indexComplexity w entries)] else [])

/-- Whether a pass over a file list is asked for. -/
def Options.wantsPasses (o : Options) : Bool :=
  o.indexFiles || o.indexFunctions || o.indexEdges || o.complexity

/-- The passes over the file list that the options name. -/
def passStages (o : Options) (w : Workshop) : Stage := fun site =>
  match o.fileList, o.sourcePath with
  | some list, some root =>
    match SourceList.load site.files list root with
    | .ok entries => inOrder (passes o w entries) site
    | .error e => (site, .error (.source e))
  | _, _ => (site, .error .noFileList)

/-- The passes over the headers below a directory. -/
def headerStage (filter : HeaderFilter) (w : Workshop) (root : String) : Stage := fun site =>
  let search := SourceList.headers site.files filter root
  let site := site.note (search.excluded.map .headerExcluded)
  match search.result with
  | .error e => (site, .error (.source e))
  | .ok found => passStage (Ingest.indexHeaders w found) site

/-- The drawing of a function's call tree. -/
def drawStage (o : Options) (d : LogDirectory) (function : String) : Stage := fun site =>
  let format := o.format.getD .text
  let depth := o.drawDepth.getD 1
  match draw format function depth (d.treePath function depth format.extension?) site with
  | (site, .ok drawing) => (site, .ok drawing.text)
  | (site, .error e) => (site, .error (.draw e))

/-- The stages that the options ask for. -/
def stages (o : Options) (filter : HeaderFilter) (w : Workshop) : List Stage :=
  (if o.wantsPasses then [passStages o w] else []) ++
  (o.indexHeaders.map (headerStage filter w)).toList ++
  (o.drawFunction.map (drawStage o w.logDirectory)).toList

/-! ## The store between runs -/

/-- The directory that holds the image of a store. -/
def imageDirectory (store : String) : String := Path.join store "image"

/-- The file that holds the image of a store. -/
def imagePath (store : String) : String := Path.join (imageDirectory store) "graph"

/-- Opens a store; one that is not there is empty. -/
def openStore (fs : FileSystem) (store : String) : FileSystem × Except OsError Archive :=
  match fs.createDirectories (imageDirectory store) with
  | (fs, .error e) => (fs, .error e)
  | (fs, .ok ()) =>
    match fs.read (imagePath store) with
    | .ok image =>
      match Archive.ofImage? image with
      | some archive => (fs, .ok archive)
      | none => (fs, .error (.reported "corrupted store"))
    | .error .notFound => (fs, .ok .empty)
    | .error e => (fs, .error e)

/-- Saves a store. -/
def saveStore (fs : FileSystem) (store : String) (archive : Archive) : FileSystem :=
  (fs.write (imagePath store) archive.image).1

/-! ## Runs -/

/-- What a run leaves: the files, the exit code, and what it printed. -/
structure Outcome where
  files : FileSystem
  code : Nat
  output : String
  errors : String

/-- The value of a field as it is logged. -/
def fieldText : FieldValue → String
  | .number n => String.ofList (Text.decimal n)
  | .text s => s

/-- An event as a line of the log. -/
def eventLine (e : Event) : String :=
  e.severity.label ++ " " ++ e.message ++
    String.join (e.fields.map fun f => " " ++ f.1 ++ "=" ++ fieldText f.2) ++ "\n"

/-- The lines of the events that a level shows. -/
def logText (level : LogLevel) (events : List Event) : String :=
  String.join ((events.filter fun e => level.shows e.severity).map eventLine)

/-- The configuration with what the options change in it. -/
def configured (o : Options) (c : Config) : Config :=
  { c with
    skipUnresolved := c.skipUnresolved ++ o.skipUnresolved
    output := { c.output with logDirectory := o.logDirectory.getD c.output.logDirectory } }

/-- What the passes of a run use; scratch copies are made in the working directory. -/
def workshop (c : Config) (host : Host) (fs : FileSystem) : Workshop :=
  let scratch := FileSystem.pathOf fs.workingDirectory
  ⟨c.extractor.extractor host scratch, c.analyzer.analyzer host scratch, c.skipUnresolved,
    ⟨c.output.logDirectory, c.output.keepsOutput⟩⟩

/-- A run from its configuration on: the file system, the log, and what it prints. -/
def perform (host : Host) (o : Options) (c : Config) (store : String) (fs : FileSystem) :
    FileSystem × List Event × Except Failure String :=
  let started := [Event.started version]
  let w := workshop c host fs
  match w.logDirectory.create fs with
  | (fs, .error e) => (fs, started, .error (.logDirectory e))
  | (fs, .ok ()) =>
    match openStore fs store with
    | (fs, .error e) => (fs, started, .error (.store store e))
    | (fs, .ok archive) =>
      let (site, result) := inOrder (stages o c.headers w) ⟨archive, fs, started⟩
      (saveStore site.files store site.store, site.log, result)

/-- What a failure leaves. -/
def failed (fs : FileSystem) (logged : String) (e : Failure) : Outcome :=
  ⟨fs, 1, "", logged ++ e.report⟩

/-- Runs what options ask for. -/
def runOptions (host : Host) (o : Options) (fs : FileSystem) : Outcome :=
  match Config.loadOrDefault fs o.config with
  | .error e => failed fs "" (.config e)
  | .ok config =>
    let c := configured o config
    let level := o.logLevel.getD .info
    match fs.append c.output.logFile [] with
    | (fs, .error e) => failed fs "" (.logFile c.output.logFile e)
    | (fs, .ok ()) =>
      let (fs, events, result) := perform host o c (o.store.getD "") fs
      let events :=
        match result with
        | .error e => events ++ e.event?.toList
        | .ok _ => events
      let logged := logText level events
      let fs := (fs.append c.output.logFile (Utf8.encode logged)).1
      match result with
      | .error e => failed fs logged e
      | .ok printed => ⟨fs, 0, printed, logged⟩

/-- Runs a command line. -/
def run (host : Host) (args : List String) (fs : FileSystem) : Outcome :=
  match Request.ofArguments args with
  | .run o => runOptions host o fs
  | .help => ⟨fs, 0, helpText, ""⟩
  | .version => ⟨fs, 0, programName ++ " " ++ version ++ "\n", ""⟩
  | .refused e => ⟨fs, 2, "", "error: " ++ e.message ++ "\n\nFor more information, try '--help'.\n"⟩

end CallForest.Cli
