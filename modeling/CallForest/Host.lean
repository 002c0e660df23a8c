import CallForest.Shell.Control

/-!
# Hosts

A host runs programs. Given a program's name, its arguments and a time limit, it either says why the
program cannot be started or runs it on the file system with nothing to read. `Host.standard` has
the programs of a machine and runs the shell scripts of the file system.
-/

namespace CallForest

/-- How a run of a program ended. -/
inductive Ending where
  | exited (code : Nat)
  | killed (signal : Nat)
  /-- It was still running when its time was up. -/
  | unfinished
  deriving DecidableEq, Repr

/-- Where the output of a program goes. -/
inductive Capture where
  /-- Into files, which are looked at when the program has ended. -/
  | files
  /-- Into pipes, which are read until nobody can write to them. -/
  | pipes
  deriving DecidableEq, Repr

/-- A run of a program: how it ended, what it wrote, and the file system it left. -/
structure ProgramRun where
  ending : Ending
  output : Bytes
  errors : Bytes
  files : FileSystem

/-- Runs the program of that name with arguments, for at most so many seconds. -/
abbrev Host :=
  (program : String) → (args : List String) → (limit : Option Nat) → Capture → FileSystem →
    Except OsError ProgramRun

namespace Host

open Shell

/-- How many commands a script may run; fewer if its time is limited. -/
def maxCommands (limit : Option Nat) : Nat :=
  if limit.isSome then 1500000 else 5000000

/-- How deep the commands of a script may be in each other. -/
def maxDepth : Nat := 20000

/-- How long after the end of a program its output is looked at, in microseconds. -/
def lookInterval : Nat := 50000

/-- The number of the process of a program. -/
def processNumber : Nat := 4242

/-- The environment of a program. -/
def environment (files : FileSystem) : List Variable :=
  [.forPrograms "PATH" defaultPath, .forPrograms "HOME" "/root".toList,
    .forPrograms "PWD" (Octets.ofText (FileSystem.pathOf files.workingDirectory))]

/-- The process of a program that has just been started: its input is empty, and its output and
error output are the second and third of the open files. -/
def process (name : Octets) (files : FileSystem) : Process :=
  { dialect := .plain
    number := processNumber
    identity := processNumber
    outer := []
    name := name
    sources := []
    place := files.workingDirectory
    visited := []
    bindings := environment files
    functions := []
    origins := []
    aliases := []
    parameters := []
    options := []
    switches := []
    descriptors := [(0, 0), (1, 1), (2, 2)]
    traps := []
    status := 0
    outputStatus := 0
    pipeStatuses := []
    line := 0
    lineOffset := 0
    calls := []
    depth := 0
    lastWord := []
    substitutes := []
    builtin := none
    tested := false
    functionDepth := 0
    loopDepth := 0
    isSubshell := false
    locals := []
    lastJob := none
    optionPlace := .start
    ending := none
    tracked := []
    isSingle := false
    lastWait := 0
    limits := []
    niceness := 0 }

/-- The state in which a program is started. -/
def startState (name : Octets) (limit : Option Nat) (capture : Capture) (files : FileSystem) :
    State :=
  let isFile := capture = .files
  { process name files with
    files := files
    opened :=
      #[OpenMode.opened .read (.device .null), State.bufferFile 0 true, State.bufferFile 1 true]
    buffers := #[.ofContent [] isFile, .ofContent [] isFile]
    documents := []
    nextDocument := 0
    clock := 0
    limit := limit.map (· * second)
    jobs := []
    nextNumber := processNumber + 1
    pending := []
    sent := []
    budget := maxCommands limit }

/-- Runs the commands in the background that are still of interest when a program has ended. -/
def settle (r : Runner) (capture : Capture) : Run Unit := do
  match capture with
  | .files =>
    let st ← get
    for job in Runner.waiting (fun _ => true) st do
      r.runJob job (some (st.clock + lookInterval)) true
  | .pipes =>
    modify fun st => { st with limit := none }
    r.settleWriters 0
    r.settleWriters 1

/-- Runs what is started. -/
def runImage (image : Image) (limit : Option Nat) (capture : Capture) (files : FileSystem) :
    ProgramRun :=
  let r := Runner.ofDepth maxDepth
  let (result, st) := r.start image (startState image.name limit capture files)
  let ending :=
    match result with
    | .error .timeUp => Ending.unfinished
    | .error (.killed _ signal) => .killed signal
    | _ => .exited st.status
  let st := if ending = .unfinished then st else (settle r capture st).2
  { ending := ending
    output := Octets.toBytes (st.bufferContent 0)
    errors := Octets.toBytes (st.bufferContent 1)
    files := st.files.asSeenBy files }

/-- The path of the program of a name. -/
def pathOf (files : FileSystem) (name : Octets) : Except OsError Octets :=
  if '/' ∈ name then .ok name
  else if name.isEmpty then .error .notFound
  else if FileSystem.maxName < name.length then .error .nameTooLong
  else Loader.search files (defaultPath.splitOn ':') name

/-- What is started by a name with arguments. -/
def imageOf (files : FileSystem) (name : Octets) (args : List Octets) : Except OsError Image := do
  let path ← pathOf files name
  if !files.isExecutable (← files.entry (Octets.toText path)) then .error .permissionDenied
  else if (name :: args).any fun a => maxArgument ≤ a.length then .error .tooManyArguments
  else Loader.load files Loader.maxDepth path name args

/-- The host that has the programs of a machine and runs the shell scripts of the file system. A
program that is given no time at all does nothing. -/
def standard : Host := fun program args limit capture files =>
  if (program :: args).any fun s => '\x00' ∈ s.toList then .error .nulArgument
  else
    match imageOf files (Octets.ofText program) (args.map Octets.ofText) with
    | .error e => .error e
    | .ok image =>
      if limit = some 0 then .ok ⟨.unfinished, [], [], files⟩
      else .ok (runImage image limit capture files)

end Host

end CallForest
