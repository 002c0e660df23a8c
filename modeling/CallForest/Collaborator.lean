import CallForest.Event
import CallForest.Host
import CallForest.Text.Printable

/-!
# Collaborators

The external tools: the extractor, which lists the calls or the definitions of a source file, and
the analyzer, which measures its functions. A tool never sees the source itself but a scratch copy,
which may have a line put in front; the copy is removed when the tool has answered, whatever the
answer is.

`Extractor` and `Analyzer` are what the passes use. `extractorOn` and `analyzerOn` run programs of a
host, and `Extractor.canned` and `Analyzer.canned` answer from a function.
-/

namespace CallForest

/-- Why a collaborator gives no answer. -/
inductive CollaboratorError where
  /-- The program cannot be started. -/
  | missing (program : String) (cause : OsError)
  /-- The program ended with an exit code other than 0, or by a signal. -/
  | failed (program path : String) (code : Option Int) (stderr : String)
  | timedOut (program path : String) (seconds : Nat)
  /-- The scratch copy of a source cannot be made; `copy` is named if it was the copy that could not
  be written. -/
  | io (path : String) (cause : OsError) (copy : Option String)
  deriving DecidableEq, Repr

namespace CollaboratorError

/-- An exit code as it is shown. -/
def codeText : Option Int → String
  | some n => s!"Some({n})"
  | none => "None"

/-- The text of an error. -/
def message : CollaboratorError → String
  | missing program cause => program ++ " could not be started: " ++ cause.message
  | failed program path code stderr =>
    program ++ " failed on " ++ path ++ " with exit code " ++ codeText code ++ ": " ++ stderr
  | timedOut program path seconds => program ++ s!" timed out after {seconds}s on " ++ path
  | io path cause copy =>
    "scratch file i/o for " ++ path ++ ": " ++ cause.message ++
      (match copy with
        | some target => " at path " ++ Text.quoted target
        | none => "")

/-- The error of the operating system behind an error. -/
def cause? : CollaboratorError → Option OsError
  | missing _ cause => some cause
  | io _ cause _ => some cause
  | failed .. | timedOut .. => none

end CollaboratorError

/-- What came of asking a collaborator: the file system it left, what was logged, and the answer. -/
structure Reply (α : Type) where
  files : FileSystem
  events : List Event
  answer : Except CollaboratorError α

/-- The listings that an extractor makes. -/
inductive ListingKind where
  | callTree
  | crossReference
  deriving DecidableEq, Repr

/-- The tool that lists calls and definitions. -/
structure Extractor where
  /-- Finds out whether the tool can be run, and its version. -/
  probe : FileSystem → Reply String
  /-- The listing of a source file. -/
  listing : ListingKind → (source : String) → FileSystem → Reply String

/-- The tool that measures functions. -/
structure Analyzer where
  /-- Finds out whether the tool can be run, and its version. -/
  probe : FileSystem → Reply String
  /-- The report on a source file. -/
  report : (source : String) → FileSystem → Reply String

/-- The extractor that answers from a function. -/
def Extractor.canned (version : Except CollaboratorError String)
    (answer : ListingKind → String → Except CollaboratorError String) : Extractor where
  probe files := ⟨files, [], version⟩
  listing kind source files := ⟨files, [], answer kind source⟩

/-- The analyzer that answers from a function. -/
def Analyzer.canned (version : Except CollaboratorError String)
    (answer : String → Except CollaboratorError String) : Analyzer where
  probe files := ⟨files, [], version⟩
  report source files := ⟨files, [], answer source⟩

/-! ## Scratch copies -/

namespace Scratch

/-- What the names of scratch copies begin with. -/
def stem : String := ".calltrees-"

/-- The letters and digits of a tag. -/
def tagChars : List Char :=
  "0123456789ABCDEFGHIJKLMNOPQRSTUVWXYZabcdefghijklmnopqrstuvwxyz".toList

/-- The tag of a number: six letters and digits. -/
def tag : Nat → Nat → List Char
  | 0, _ => []
  | width + 1, n =>
    tag width (n / tagChars.length) ++ [tagChars.getD (n % tagChars.length) '0']

/-- What follows the tag in the name of a source file's copy: the file's extension. -/
def suffix (source : String) : String :=
  match Path.extension? source with
  | some e => "." ++ e
  | none => ""

/-- The name of the copy with the tag of that number. -/
def name (source : String) (n : Nat) : String :=
  stem ++ String.ofList (tag 6 n) ++ suffix source

/-- The first number, from `n` on, whose name is not among `taken`. The first argument bounds the
number of attempts. -/
def freeNumber (taken : List String) (source : String) : Nat → Nat → Nat
  | 0, n => n
  | attempts + 1, n =>
    if name source n ∈ taken then freeNumber taken source attempts (n + 1) else n

/-- A path for a copy in a directory, under a name that is still free. -/
def path (fs : FileSystem) (directory source : String) : String :=
  let taken :=
    match fs.readDirectory directory with
    | .ok d => d.names
    | .error _ => []
  Path.join (fs.absolute directory) (name source (freeNumber taken source taken.length 0))

/-- The content of a copy: the prelude as a line of its own, then the source. -/
def content (prelude : Option String) (source : Bytes) : Bytes :=
  match prelude with
  | none => source
  | some line => Utf8.encode line ++ 10 :: source

/-- Makes the copy of a source file, as a new file that is for its owner only. A copy that cannot be
written in full is removed again. -/
def create (fs : FileSystem) (source directory : String) (prelude : Option String) :
    FileSystem × Except CollaboratorError String :=
  match fs.read source with
  | .error e => (fs, .error (.io source e none))
  | .ok bytes =>
    let target := path fs directory source
    match fs.createFile target Mode.ofPrivateFile with
    | (fs, .error e) => (fs, .error (.io source e (some target)))
    | (fs, .ok ()) =>
      match fs.write target (content prelude bytes) with
      | (fs, .ok ()) => (fs, .ok target)
      | (fs, .error e) => ((fs.removeFile target).1, .error (.io source e (some target)))

end Scratch

/-! ## Running programs -/

/-- A program and its arguments; the path of the scratch copy comes behind them. -/
structure CommandSpec where
  program : String
  args : List String
  deriving DecidableEq, Repr

/-- The exit code of an ending; a signal leaves none. -/
def Ending.code? : Ending → Option Int
  | .exited n => some n
  | .killed _ | .unfinished => none

/-- Asks a program for its version and takes the first line of what it prints. -/
def probeProgram (host : Host) (program : String) (fs : FileSystem) : Reply String :=
  match host program ["--version"] none .pipes fs with
  | .error e => ⟨fs, [], .error (.missing program e)⟩
  | .ok run =>
    if run.ending = .exited 0 then
      let banner := Text.lines (Utf8.decodeLossy run.output).toList
      ⟨run.files, [], .ok (String.ofList (Text.trim (banner.headD [])))⟩
    else
      ⟨run.files, [],
        .error (.failed program program run.ending.code?
          (Text.trimmed (Utf8.decodeLossy run.errors)))⟩

/-- Runs a program on an input file and takes what it prints. -/
def runProgram (host : Host) (spec : CommandSpec) (input : String) (timeout : Option Nat)
    (fs : FileSystem) : Reply String :=
  let started := Event.running spec.program input
  match host spec.program (spec.args ++ [input]) timeout .files fs with
  | .error e => ⟨fs, [started], .error (.missing spec.program e)⟩
  | .ok run =>
    match run.ending, timeout with
    | .exited 0, _ => ⟨run.files, [started], .ok (Utf8.decodeLossy run.output)⟩
    | .unfinished, some limit =>
      ⟨run.files, [started, .timedOut spec.program input],
        .error (.timedOut spec.program input limit)⟩
    | ending, _ =>
      ⟨run.files, [started],
        .error (.failed spec.program input ending.code?
          (Text.trimmed (Utf8.decodeLossy run.errors)))⟩

/-- Runs a program on a scratch copy of a source file and removes the copy. -/
def runOnCopy (host : Host) (spec : CommandSpec) (timeout : Option Nat) (prelude : Option String)
    (directory source : String) (fs : FileSystem) : Reply String :=
  match Scratch.create fs source directory prelude with
  | (fs, .error e) => ⟨fs, [], .error e⟩
  | (fs, .ok copy) =>
    let reply := runProgram host spec copy timeout fs
    { reply with files := (reply.files.removeFile copy).1 }

end CallForest
