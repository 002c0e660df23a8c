import CallForest.Program.Catalogue
import CallForest.Shell.Builtin.Inquiry
import CallForest.Shell.Redirection

/-!
# Programs in processes

How a process goes on as a program: as one that is a function of its input, as a shell, or as one
that starts other programs. What `env`, `xargs`, `timeout` and their like share is how their options
are read, and how a process goes on as the program that words name.
-/

namespace CallForest.Shell

/-! ## Programs that are functions -/

/-- Whether what is read through a descriptor is a file. -/
def State.readsFile (st : State) (descriptor : Nat) : Bool :=
  match st.openFile? descriptor with
  | some (_, file) =>
    match file.target with
    | .file _ => true
    | .buffer n => (st.buffers[n]?).any Buffer.isFile
    | .device _ | .directory | .program => false
  | none => false

/-- The number of the file that a descriptor stands for. -/
def State.fileNumber? (st : State) (descriptor : Nat) : Option Nat :=
  match st.openFile? descriptor with
  | some (_, ⟨.file number, _, _, _, _⟩) => some number
  | _ => none

/-- Why nothing can be read behind a descriptor, if so. -/
def State.inputProblem? (st : State) (descriptor : Nat) : Option OsError :=
  match st.openFile? descriptor with
  | none => some .badDescriptor
  | some (_, file) =>
    if !file.readable then some .badDescriptor
    else if file.target = .directory then some .isDirectory
    else none

/-- Writes what a program has written, in order; gives the first problem with its output. -/
def State.writeAll (st : State) (problem : Option OsError) :
    List (Bool × Octets) → State × Option OsError
  | [] => (st, problem)
  | (true, s) :: rest => (st.put 2 s).writeAll problem rest
  | (false, s) :: rest =>
    match st.write 1 s with
    | (st, .ok ()) => st.writeAll problem rest
    | (st, .error e) => st.writeAll (some (problem.getD e)) rest

/-- Does what a program does; gives the first problem with its output. -/
def Run.effect (program : Program) (name : Octets) (args : List Octets) : Run (Option OsError) :=
  fun st =>
    let e := program
      { name := name
        args := args
        input := st.unread 0
        inputProblem := st.inputProblem? 0
        inputIsFile := st.readsFile 0
        inputFile := st.fileNumber? 0
        outputFile := st.fileNumber? 1
        environment := st.environment
        files := st.files
        patience := st.budget }
    let st := { st with files := e.files }.readUpTo 0 e.unread
    let st := if e.unread.isEmpty && !e.early then st.drained 0 else st
    let (st, problem) := st.writeAll none e.written.reverse
    let late := { st with clock := max st.clock (st.limit.getD 0) }
    match e.continuation with
    | .ends => (.ok problem, st.withStatus e.code)
    | .waits => (.error .timeUp, late)
    | .writes =>
      if problem.isSome then (.ok problem, st.withStatus e.code)
      else (.error .timeUp, { late with budget := 0 })

/-- The status of a program whose output cannot be written, and the lines that tell of that. -/
def outputFailure (program : String) (problem : OsError) : Nat × List String :=
  let usual := "write error: " ++ problem.reason
  match program with
  | "ls" | "dir" | "vdir" | "grep" | "egrep" | "fgrep" => (2, [usual])
  | "expr" => (3, [usual])
  | "env" => (125, [usual])
  | "sed" =>
    let what := if problem = .badDescriptor then "couldn't close stdout: "
      else "couldn't flush stdout: "
    (4, [what ++ problem.reason])
  | "sort" => (2, ["fflush failed: 'standard output': " ++ problem.reason, "write error"])
  | "tee" => (1, ["'standard output': " ++ problem.reason])
  | "yes" => (1, ["standard output: " ++ problem.reason])
  | "cat" =>
    (1, [if problem = .badDescriptor then "standard output: " ++ problem.reason else usual])
  | "wc" | "cksum" | "sum" | "md5sum" | "sha1sum" | "sha224sum" | "sha256sum" | "sha384sum"
  | "sha512sum" | "b2sum" =>
    (1, [if problem = .noSpace then "write error" else usual])
  | _ => (1, [usual])

/-- How a program speaks of its input when it says at its end that it was not there. -/
def closedInputName? (program : String) : Option String :=
  match program with
  | "cat" | "fmt" => some "closing standard input"
  | "head" | "tail" | "wc" | "cut" | "tac" | "nl" | "fold" | "paste" | "expand" => some "-"
  | "tee" | "od" | "cksum" | "sum" | "md5sum" | "sha1sum" | "sha256sum" => some "standard input"
  | _ => none

/-- Does what a program of the machine does. -/
def Run.program (title : String) (program : Program) (name : Octets) (args : List Octets) :
    Run Unit := do
  let problem ← Run.effect program name args
  let st ← get
  let front := name ++ ": ".toList
  match problem with
  | some problem =>
    let (status, lines) := outputFailure title problem
    let text := lines.flatMap fun l => front ++ l.toList ++ ['\n']
    set ((st.put 2 text).withStatus status)
  | none =>
    match closedInputName? title, st.inputProblem? 0 with
    | some input, some .badDescriptor =>
      if st.status ≠ 0 then
        set (st.put 2 (front ++ input.toList ++ ": Bad file descriptor\n".toList))
    | _, _ => return

/-! ## Starting -/

/-- How many bytes an argument may have, with the one that ends it. -/
def maxArgument : Nat := 131072

/-- What is started when the file at a path is. A file that is no program is taken for a script of
a shell. -/
def State.image (st : State) (shell : String) (path name : Octets) (args : List Octets) :
    Except OsError Image :=
  match Loader.load st.files Loader.maxDepth path name args with
  | .error .badExecutable => .ok ⟨shell, ("/bin/" ++ shell).toList, path :: args⟩
  | .error e => .error e
  | .ok image =>
    if args.any fun a => maxArgument ≤ a.length then .error .tooManyArguments else .ok image

/-- What is started when a program is looked for by a name, in the directories of programs if
nothing is said of where to look. -/
def State.imageNamed (st : State) (name : Octets) (args : List Octets) : Except OsError Image := do
  let path ← st.programPath ((st.value? "PATH").getD "/bin:/usr/bin".toList) name
  st.image "sh" path name args

namespace Runner

variable (r : Runner)

/-- How many commands beginning a process counts for. -/
def processCost : Nat := 20

/-- Runs something in a process of its own and takes its status, or tells the signal that has ended
that process. Meanwhile commands in the background come to their end, if they take no time. -/
def inOwnProcess (body : Run Unit) : Run (Option Nat) := do
  r.settleUntil (← get).clock
  let signal ← (fun st =>
    let start := { st.forked with budget := st.budget - processCost }
    let (result, sub) := body start
    let after := st.joined sub
    match result with
    | .error .timeUp => (.error .timeUp, after)
    | .error (.killed shell signal) =>
      if shell = start.identity then (.ok (some signal), after.withStatus (128 + signal))
      else (.error (.killed shell signal), after)
    | _ => (.ok none, after.withStatus sub.status) : Run (Option Nat))
  let status := (← get).status
  r.settleUntil (← get).clock
  Run.finish status
  return signal

/-- Runs something in a process of its own and takes its status. If a signal has ended that process,
this is said. -/
def inChild (body : Run Unit) : Run Unit := do
  let isSingle := (← get).isSingle
  if let some signal := ← r.inOwnProcess body then
    let text := Signal.description signal
    unless text.isEmpty || isSingle do modify (·.put 2 (text.toList ++ ['\n']))

end Runner

/-! ## Programs that start others -/

/-- Complains of a program's arguments, and ends it with a status. -/
def Run.misuse (name : Octets) (status : Nat) (text : Option Octets) : Run Unit :=
  modify fun st =>
    let st := match text with
      | some t => st.put 2 (name ++ ": ".toList ++ t ++ ['\n'])
      | none => st
    (st.put 2 (OptionTable.hint name)).withStatus status

/-- Complains, and ends a program with a status. -/
def Run.failing (name : Octets) (status : Nat) (text : Octets) : Run Unit :=
  modify fun st => (st.put 2 (name ++ ": ".toList ++ text ++ ['\n'])).withStatus status

/-- What a program does with its options and operands. An option that there is not ends it with a
status, and the option `--version` prints its title. -/
def Run.withOptions (t : OptionTable) (title : String) (status : Nat) (name : Octets)
    (args : List Octets) (body : List GivenOption → List Octets → Run Unit) : Run Unit := do
  let table :=
    { t with words := t.words ++ [("version", OptionTable.versionLetter, ValueKind.never)] }
  let (given, read) := table.readFrom none args
  if isGiven given OptionTable.versionLetter then
    Run.print ((title ++ "\n").toList)
    Run.finish 0
  else
    match read with
    | .error problem => Run.misuse name status (some problem)
    | .ok operands => body given operands

/-- Goes on as the program that words name; `told` is what is said of one that cannot be started. -/
def startWords (become : Image → Run Unit) (name : Octets) (told : Octets → Octets)
    (words : List Octets) : Run Unit := do
  match words with
  | [] => return
  | program :: args =>
    match (← get).imageNamed program args with
    | .ok image => become image
    | .error e =>
      Run.failing name (if e = .notFound then 127 else 126)
        (told program ++ ": ".toList ++ e.reason.toList)

end CallForest.Shell
