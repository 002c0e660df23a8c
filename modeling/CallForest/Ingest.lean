import CallForest.Collaborator
import CallForest.Graph.Store
import CallForest.LogDirectory
import CallForest.Source
import CallForest.Tree.Export
import CallForest.Tree.Walk

/-!
# Filling a store, and drawing from it

A pass goes through a list of source files and enters what it finds into the store. A file that is
not there is skipped, and one with which something goes wrong is given up; what it entered before
stays. Only a collaborator that cannot be started ends a pass.

Passes and drawings work on a site: the store, the file system and the log.
-/

namespace CallForest

/-- What passes work on. -/
structure Site (σ : Type) where
  store : σ
  files : FileSystem
  log : List Event

namespace Site

variable {σ : Type}

/-- Logs events. -/
def note (site : Site σ) (events : List Event) : Site σ :=
  { site with log := site.log ++ events }

/-- Takes over the file system and the events of a reply. -/
def hear {α : Type} (site : Site σ) (r : Reply α) : Site σ :=
  { site with files := r.files, log := site.log ++ r.events }

/-- Keeps the raw output for a source file. -/
def dump (site : Site σ) (d : LogDirectory) (kind : DumpKind) (shortPath text : String) : Site σ :=
  let (files, events) := d.dump kind shortPath text site.files
  { site with files := files, log := site.log ++ events }

/-- The site with something else in the place of the store. -/
def map {τ : Type} (f : σ → τ) (site : Site σ) : Site τ := ⟨f site.store, site.files, site.log⟩

end Site

/-- Why a file is given up. -/
inductive IngestError where
  | collaborator (e : CollaboratorError)
  | reconstruct (e : ReconstructError)
  /-- The file cannot be read. -/
  | io (path : String) (cause : OsError)
  deriving DecidableEq, Repr

/-- The text of an error. -/
def IngestError.message : IngestError → String
  | .collaborator e => e.message
  | .reconstruct e => e.message
  | .io path cause => "reading " ++ path ++ ": " ++ cause.message

/-- What passes need beside the site. -/
structure Workshop where
  extractor : Extractor
  analyzer : Analyzer
  /-- Names that make no edges unless they are registered. -/
  skip : List String
  logDirectory : LogDirectory

namespace Ingest

variable {σ : Type} [GraphStore σ]

/-! ## One file -/

/-- Registers a file with the number of its lines. -/
def fileRecord (entry : SourceEntry) (site : Site σ) : Site σ × Except IngestError Unit :=
  match site.files.read entry.fullPath with
  | .error e => (site, .error (.io entry.fullPath e))
  | .ok content =>
    let record : FileRecord :=
      ⟨entry.fullPath, entry.shortPath, UInt64.ofNat (lineCount content), entry.name⟩
    match GraphStore.registerFile record site.store with
    | .ok store => ({ site with store := store }, .ok ())
    | .error _ => (site.note [.fileKnown entry.shortPath], .ok ())

/-- The record of a definition in a source file. -/
def recordOf (entry : SourceEntry) (d : Xref.Definition) : FunctionRecord :=
  ⟨entry.fullPath, entry.shortPath, d.name, d.line, d.signature, none⟩

/-- Registers definitions of a file and counts those that are new. -/
def registerAll (entry : SourceEntry) : List Xref.Definition → Nat → Site σ → Site σ × Nat
  | [], registered, site => (site, registered)
  | d :: ds, registered, site =>
    match GraphStore.registerFunction (recordOf entry d) site.store with
    | .ok store => registerAll entry ds (registered + 1) { site with store := store }
    | .error _ =>
      registerAll entry ds registered (site.note [.functionKnown d.name entry.shortPath])

/-- Registers the functions that a file defines. -/
def functionsIn (w : Workshop) (entry : SourceEntry) (site : Site σ) :
    Site σ × Except IngestError Unit :=
  let reply := w.extractor.listing .crossReference entry.fullPath site.files
  let site := site.hear reply
  match reply.answer with
  | .error e => (site, .error (.collaborator e))
  | .ok listing =>
    let site := (site.dump w.logDirectory .functions entry.shortPath listing).note
      (Xref.warnings listing)
    let (site, registered) := registerAll entry (Xref.definitions listing) 0 site
    (site.note [.functionsIndexed entry.shortPath registered], .ok ())

/-- Records the calls of a file. -/
def edgesIn (w : Workshop) (entry : SourceEntry) (site : Site (Rebuilder σ)) :
    Site (Rebuilder σ) × Except IngestError Unit :=
  let reply := w.extractor.listing .callTree entry.fullPath site.files
  let site := site.hear reply
  match reply.answer with
  | .error e => (site, .error (.collaborator e))
  | .ok listing =>
    let site := site.dump w.logDirectory .edges entry.shortPath listing
    let (rebuilder, outcome) := site.store.read w.skip listing
    let site := { site with store := rebuilder }.note (outcome.edges.map .edge)
    match outcome.failure with
    | some e => (site, .error (.reconstruct e))
    | none => (site.note [.edgesIndexed entry.shortPath outcome.summary], .ok ())

/-- Attaches measurements to registered functions. -/
def attachAll (entry : SourceEntry) : List Report.Measurement → Site σ → Site σ
  | [], site => site
  | m :: ms, site =>
    match GraphStore.updateComplexity m.name m.metrics site.store with
    | .ok store => attachAll entry ms { site with store := store }
    | .error _ => attachAll entry ms (site.note [.unmeasured m.name entry.shortPath])

/-- Attaches the measurements of a file. -/
def complexityIn (w : Workshop) (entry : SourceEntry) (site : Site σ) :
    Site σ × Except IngestError Unit :=
  let reply := w.analyzer.report entry.fullPath site.files
  let site := site.hear reply
  match reply.answer with
  | .error e => (site, .error (.collaborator e))
  | .ok report =>
    let site := (site.dump w.logDirectory .complexity entry.shortPath report).note
      (Report.warnings report)
    (attachAll entry (Report.measurements report) site, .ok ())

/-! ## Passes -/

/-- Handles the files of a list one after another, and counts. -/
def runPass (pass : Pass) (handle : SourceEntry → Site σ → Site σ × Except IngestError Unit) :
    BatchReport → List SourceEntry → Site σ → Site σ × Except CollaboratorError BatchReport
  | report, [], site => (site.note [.passComplete pass report], .ok report)
  | report, entry :: entries, site =>
    if entry.isPresent site.files then
      match handle entry (site.note [.processing pass entry.shortPath]) with
      | (site, .ok ()) =>
        runPass pass handle { report with processed := report.processed + 1 } entries site
      | (site, .error (.collaborator (.missing program cause))) =>
        (site, .error (.missing program cause))
      | (site, .error e) =>
        runPass pass handle { report with failed := report.failed + 1 } entries
          (site.note [.abandoned pass entry.shortPath e.message])
    else
      runPass pass handle { report with skipped := report.skipped + 1 } entries
        (site.note [.sourceMissing pass entry.shortPath])

/-- Registers the files of a list. -/
def indexFiles (entries : List SourceEntry) (site : Site σ) :
    Site σ × Except CollaboratorError BatchReport :=
  runPass .files fileRecord .zero entries (site.note [.passStarted .files entries.length ""])

/-- Runs a pass that needs a collaborator, if the collaborator can be run. -/
def probed (pass : Pass) (probe : FileSystem → Reply String)
    (handle : SourceEntry → Site σ → Site σ × Except IngestError Unit)
    (entries : List SourceEntry) (site : Site σ) : Site σ × Except CollaboratorError BatchReport :=
  let reply := probe site.files
  let site := site.hear reply
  match reply.answer with
  | .error e => (site, .error e)
  | .ok version =>
    runPass pass handle .zero entries (site.note [.passStarted pass entries.length version])

/-- Registers the functions that the files of a list define. -/
def indexFunctions (w : Workshop) (entries : List SourceEntry) (site : Site σ) :
    Site σ × Except CollaboratorError BatchReport :=
  probed .functions w.extractor.probe (functionsIn w) entries site

/-- Records the calls of the files of a list. One rebuilder reads the listings of all. -/
def indexEdges (w : Workshop) (entries : List SourceEntry) (site : Site σ) :
    Site σ × Except CollaboratorError BatchReport :=
  let (site, result) := probed .edges w.extractor.probe (edgesIn w) entries (site.map Rebuilder.new)
  (site.map Rebuilder.store, result)

/-- Attaches the measurements of the files of a list. -/
def indexComplexity (w : Workshop) (entries : List SourceEntry) (site : Site σ) :
    Site σ × Except CollaboratorError BatchReport :=
  probed .complexity w.analyzer.probe (complexityIn w) entries site

/-- The function pass and the complexity pass over headers. -/
def indexHeaders (w : Workshop) (headers : List SourceEntry) (site : Site σ) :
    Site σ × Except CollaboratorError (BatchReport × BatchReport) :=
  match indexFunctions w headers (site.note [.headersStarted headers.length]) with
  | (site, .error e) => (site, .error e)
  | (site, .ok functions) =>
    match indexComplexity w headers site with
    | (site, .error e) => (site, .error e)
    | (site, .ok complexity) => (site, .ok (functions, complexity))

end Ingest

/-! ## Drawing -/

/-- Why a call tree is not drawn. -/
inductive DrawError where
  | originNotFound (function : String)
  | notCreated (artifact : String) (cause : OsError)
  | notWritten (cause : OsError)
  deriving DecidableEq, Repr

/-- The text of an error. -/
def DrawError.message : DrawError → String
  | .originNotFound function => originNotFoundMessage function
  | .notCreated artifact _ => "Failed to create " ++ artifact
  | .notWritten cause => cause.message

/-- A drawn call tree, and its text. -/
structure Drawing where
  lines : List TreeLine
  text : String
  deriving DecidableEq, Repr

/-- Draws the call tree of a function and writes it to a file. -/
def draw {σ : Type} [GraphStore σ] (format : TreeFormat) (function : String) (depthBound : Nat)
    (artifact : String) (site : Site σ) : Site σ × Except DrawError Drawing :=
  match Origin.resolve? site.store function depthBound with
  | none => (site, .error (.originNotFound function))
  | some origin =>
    let lines := walk site.store origin
    let text := format.export lines
    match site.files.write artifact [] with
    | (files, .error e) => ({ site with files := files }, .error (.notCreated artifact e))
    | (files, .ok ()) =>
      match files.write artifact (Utf8.encode text) with
      | (files, .error e) => ({ site with files := files }, .error (.notWritten e))
      | (files, .ok ()) =>
        ({ site with files := files }.note
          [.drawn origin.node depthBound lines.length artifact], .ok ⟨lines, text⟩)

end CallForest
