import CallForest.Listing.Reconstruction
import CallForest.Report
import CallForest.Xref

/-!
# Log events

What a run tells about itself. An event has a severity, a message, and named fields.
-/

namespace CallForest

/-- How much an event matters. -/
inductive Severity where
  | error
  | warn
  | info
  | debug
  deriving DecidableEq, Repr

/-- A severity as it is shown. -/
def Severity.label : Severity → String
  | .error => "ERROR"
  | .warn => "WARN"
  | .info => "INFO"
  | .debug => "DEBUG"

/-- The passes over a list of source files. -/
inductive Pass where
  | files
  | functions
  | edges
  | complexity
  deriving DecidableEq, Repr

/-- A pass as it is shown. -/
def Pass.label : Pass → String
  | .files => "files"
  | .functions => "functions"
  | .edges => "edges"
  | .complexity => "complexity"

/-- What came of a pass: how many files were handled, not found, and given up. -/
structure BatchReport where
  processed : Nat
  skipped : Nat
  failed : Nat
  deriving DecidableEq, Repr

/-- The report of a pass over no files. -/
def BatchReport.zero : BatchReport := ⟨0, 0, 0⟩

/-- The events of a run. -/
inductive Event where
  /-- The program starts. -/
  | started (version : String)
  /-- A pass starts, with a collaborator of that version unless it needs none. -/
  | passStarted (pass : Pass) (files : Nat) (version : String)
  | headersStarted (headers : Nat)
  | headerExcluded (header : String)
  | sourceMissing (pass : Pass) (file : String)
  | processing (pass : Pass) (file : String)
  | abandoned (pass : Pass) (file error : String)
  | passComplete (pass : Pass) (report : BatchReport)
  | fileKnown (file : String)
  | functionKnown (function file : String)
  | functionsIndexed (file : String) (registered : Nat)
  | edge (edge : Edge)
  | edgesIndexed (file : String) (summary : Reconstruction.Summary)
  | unmeasured (function file : String)
  | noLineNumber (lineNo : Nat) (location : String)
  | noLocation (lineNo : Nat) (text : String)
  | unreadableRow (lineNo : Nat) (row : String)
  | dumpFailed (path error : String)
  | running (program input : String)
  | timedOut (program input : String)
  | drawn (origin : Node) (depthBound nodes : Nat) (artifact : String)
  | originNotFound (function : String)
  deriving DecidableEq, Repr

/-- The value of a field. -/
inductive FieldValue where
  | number (n : Nat)
  | text (s : String)
  deriving DecidableEq, Repr

/-- The text of the error about a function that is not registered. -/
def originNotFoundMessage (function : String) : String :=
  "function not found in database: " ++ function

namespace Event

/-- The severity of an event. -/
def severity : Event → Severity
  | abandoned .. | originNotFound _ => .error
  | sourceMissing .. | fileKnown _ | functionKnown .. | unmeasured .. | noLineNumber ..
  | noLocation .. | unreadableRow .. | dumpFailed .. | timedOut .. => .warn
  | functionsIndexed .. | edge _ | edgesIndexed .. | running .. => .debug
  | started _ | passStarted .. | headersStarted _ | headerExcluded _ | processing ..
  | passComplete .. | drawn .. => .info

/-- The message of an event. -/
def message : Event → String
  | started version => "Call Trees v" ++ version ++ " started"
  | passStarted .files _ _ => "indexing files"
  | passStarted .functions _ _ => "indexing functions"
  | passStarted .edges _ _ => "indexing edges"
  | passStarted .complexity _ _ => "processing complexity"
  | headersStarted _ => "header processor starting"
  | headerExcluded _ => "skipping excluded header"
  | sourceMissing _ file => "source file not found: " ++ file
  | processing _ _ => "processing"
  | abandoned .. => "file abandoned"
  | passComplete .. => "pass complete"
  | fileKnown _ => "file already in store"
  | functionKnown .. => "function already exists in store"
  | functionsIndexed .. => "functions indexed"
  | edge _ => "edge"
  | edgesIndexed .. => "edges indexed"
  | unmeasured .. => "no record for complexity data"
  | noLineNumber .. => "definition without a line number"
  | noLocation .. => "definition without a location"
  | unreadableRow .. => "unreadable complexity row"
  | dumpFailed .. => "failed to write raw output"
  | running .. => "running collaborator"
  | timedOut .. => "collaborator timed out, killing"
  | drawn .. => "call tree drawn"
  | originNotFound function => originNotFoundMessage function

/-- The fields of an event. -/
def fields : Event → List (String × FieldValue)
  | started _ => []
  | passStarted .files n _ => [("files", .number n)]
  | passStarted .complexity n version => [("files", .number n), ("analyzer", .text version)]
  | passStarted _ n version => [("files", .number n), ("extractor", .text version)]
  | headersStarted n => [("headers", .number n)]
  | headerExcluded header => [("header", .text header)]
  | sourceMissing pass file => [("pass", .text pass.label), ("file", .text file)]
  | processing pass file => [("pass", .text pass.label), ("file", .text file)]
  | abandoned pass file error =>
    [("pass", .text pass.label), ("file", .text file), ("error", .text error)]
  | passComplete pass r =>
    [("pass", .text pass.label), ("processed", .number r.processed),
      ("skipped", .number r.skipped), ("failed", .number r.failed)]
  | fileKnown file => [("file", .text file)]
  | functionKnown function file => [("function", .text function), ("file", .text file)]
  | functionsIndexed file n => [("file", .text file), ("registered", .number n)]
  | edge e => [("caller", .text e.caller.label), ("callee", .text e.callee.label)]
  | edgesIndexed file s =>
    [("file", .text file), ("lines", .number s.lines), ("edges", .number s.edges),
      ("unresolved", .number s.unresolved), ("skipped", .number s.skipped)]
  | unmeasured function file => [("function", .text function), ("file", .text file)]
  | noLineNumber lineNo location => [("line_no", .number lineNo), ("location", .text location)]
  | noLocation lineNo text => [("line_no", .number lineNo), ("text", .text text)]
  | unreadableRow lineNo row => [("line_no", .number lineNo), ("row", .text row)]
  | dumpFailed path error => [("path", .text path), ("error", .text error)]
  | running program input => [("program", .text program), ("input", .text input)]
  | timedOut program input => [("program", .text program), ("input", .text input)]
  | drawn origin depthBound nodes artifact =>
    [("origin", .text origin.label), ("depth_bound", .number depthBound), ("nodes", .number nodes),
      ("artifact", .text artifact)]
  | originNotFound function => [("function", .text function)]

end Event

/-- The note that a finding of a cross-reference listing asks for. -/
def Xref.Finding.event? : Xref.Finding → Option Event
  | .definition _ => none
  | .noLineNumber lineNo location => some (.noLineNumber lineNo location)
  | .noLocation lineNo text => some (.noLocation lineNo text)

/-- The notes on the definitions of a listing that cannot be used. -/
def Xref.warnings (listing : String) : List Event :=
  (findings listing).filterMap Finding.event?

/-- The note that an entry of a report asks for. -/
def Report.Entry.event? : Report.Entry → Option Event
  | .measured _ => none
  | .unreadable lineNo row => some (.unreadableRow lineNo row)

/-- The notes on the rows of a report that cannot be read. -/
def Report.warnings (report : String) : List Event :=
  (entries report).filterMap Entry.event?

end CallForest
