import CallForest.Program.Judgement
import CallForest.Shell.Builtin.Reading
import CallForest.Shell.Builtin.Environment
import CallForest.Shell.Builtin.Job
import CallForest.Shell.Launch

/-!
# Commands that run others

The commands of the shell that print, that end what is running, or that run texts, files and
programs, and `Runner.builtin?`, which tells what a command of the plain shell does.
-/

namespace CallForest.Shell

namespace Runner

variable (r : Runner)

/-- Tells by the status whether a condition holds. -/
def test (inBrackets : Bool) (args : List Octets) : Run Unit := fun st =>
  match Condition.holds st.files inBrackets args with
  | .ok holds => (.ok (), st.withStatus (if holds then 0 else 1))
  | .error problem => (.ok (), (st.warn problem).withStatus 2)

/-- Prints texts. -/
def echo (args : List Octets) : Run Unit := Run.say 0 (Printing.shellEcho args)

/-- Prints texts under a format. What is complained of is written before anything is printed. -/
def printf (args : List Octets) : Run Unit := fun st =>
  let (status, complaints, text) := Printing.shellPrintf args
  Run.say status text (complaints.foldl (fun (st : State) c => st.warn c) st)

/-- Ends loops, as many as the argument tells. -/
def leaveLoops (again : Bool) (args : List Octets) : Run Unit := do
  let n ← match args with
    | [] => pure 1
    | arg :: _ => Builtin.number arg
  if n = 0 then Run.abort ("Illegal number: ".toList ++ args.headD [])
  Run.finish 0
  let depth := (← get).loopDepth
  if depth ≠ 0 then throw (.leaveLoop again (min n depth))

/-- Ends the script. -/
def exit (args : List Octets) : Run Unit := do
  match args with
  | [] =>
    modify fun st => st.withStatus (st.ending.getD st.status)
    throw .exit
  | arg :: _ =>
    let n ← Builtin.number arg
    Run.finish (n % 256)
    throw .exit

/-- Ends a function or a file that is read. -/
def return' (args : List Octets) : Run Unit := do
  match args with
  | [] => throw .leaveFunction
  | arg :: _ =>
    let n ← Builtin.number arg
    Run.finish n
    throw .leaveFunction

/-- Runs the text that arguments make. -/
def eval (args : List Octets) : Run Unit := do
  r.part .evaluated ([' '].intercalate args)

/-- The path of a file that is to be read as a part of the script, if one is found. -/
def partPath? (st : State) (name : Octets) : Option Octets :=
  if '/' ∈ name then some name
  else
    let places := (st.path.splitOn ':').map fun d => if d.isEmpty then name else d ++ '/' :: name
    places.find? fun p => st.files.isFile (Octets.toText p)

/-- Ends what `return` ends within a part of a script. -/
def endingAtReturn (body : Run Unit) : Run Unit := fun st =>
  match body st with
  | (.error .leaveFunction, after) => (.ok (), after)
  | other => other

/-- Runs a file in the process of the script. -/
def dot (args : List Octets) : Run Unit := do
  match args with
  | [] => Run.finish 0
  | name :: _ =>
    let st ← get
    match partPath? st name with
    | none => Run.abort (name ++ ": not found".toList)
    | some path =>
      match st.files.read (Octets.toText path) with
      | .error .isDirectory => Run.finish 0
      | .error e => Run.abort (openProblem .plain .read path e)
      | .ok bytes =>
        modify fun st => { st with builtin := some (String.ofList path), line := 1 }
        endingAtReturn (r.part .file (Octets.ofBytes bytes))

/-- Goes on as a program for good. -/
def replaceBy (image : Image) : Run Unit := do
  modify fun st => { st with traps := st.traps.filter fun t => t.2.isEmpty }
  r.start image
  throw .exit

/-- Goes on as a program for good, if one is named. -/
def execute (args : List Octets) : Run Unit := do
  let args := match args with
    | ['-', '-'] :: rest => rest
    | args => args
  match args with
  | [] => Run.finish 0
  | name :: rest =>
    let st ← get
    match (st.programPath st.path name).bind fun path => st.image "sh" path name rest with
    | .error e =>
      set ((st.warn (name ++ ": ".toList ++ startProblem e)).withStatus (startStatus e))
      throw .exit
    | .ok image => r.replaceBy image

/-- The status of waiting; a signal that has come tells it. -/
def statusOfWait (status : Nat) (pending : List Nat) : Nat :=
  match pending with
  | [] => status
  | signal :: _ => 128 + signal

/-- Waits for all commands in the background. -/
def waitForAll : Run Unit := do
  for job in ownJobs (← get) do
    let _ ← r.waitFor job.number
  Run.finish (statusOfWait 0 (← get).pending)

/-- Waits for commands in the background. -/
def wait (args : List Octets) : Run Unit := do
  match args with
  | [] => r.waitForAll
  | args =>
    let mut status := 0
    for arg in args do
      let number ← match arg with
        | '%' :: _ => do pure (← jobOf arg).number
        | arg => Builtin.number arg
      match ← r.waitFor number with
      | some (s, announced) =>
        status := s
        if 128 < s && announced then
          let text := Signal.description (s - 128)
          unless text.isEmpty do modify fun st => st.put 2 (text.toList ++ ['\n'])
      | none => status := 127
    Run.finish (statusOfWait status (← get).pending)

/-- What a command of the plain shell does, by its name; `command` is left out. -/
def builtin? (name : String) : Option Builtin :=
  match name with
  | ":" | "true" => some fun _ => Run.finish 0
  | "alias" => some Builtin.alias'
  | "unalias" => some Builtin.unalias
  | "false" => some fun _ => Run.finish 1
  | "." => some r.dot
  | "break" => some (leaveLoops false)
  | "continue" => some (leaveLoops true)
  | "cd" | "chdir" => some Builtin.cd
  | "echo" => some echo
  | "eval" => some r.eval
  | "exec" => some r.execute
  | "exit" => some exit
  | "export" => some Builtin.export'
  | "getopts" => some Builtin.getopts
  | "hash" => some Builtin.hash
  | "kill" => some (Builtin.kill r.endJob)
  | "local" => some Builtin.local'
  | "printf" => some printf
  | "pwd" => some Builtin.pwd
  | "read" => some Builtin.read
  | "readonly" => some Builtin.readonly
  | "return" => some return'
  | "set" => some Builtin.change
  | "shift" => some Builtin.shift
  | "test" => some (test false)
  | "[" => some (test true)
  | "times" => some fun _ => do
    Run.print "0m0.000000s 0m0.000000s\n0m0.000000s 0m0.000000s\n".toList
    Run.finish 0
  | "trap" => some Builtin.trap
  | "type" => some Builtin.type
  | "umask" => some Builtin.umask
  | "unset" => some Builtin.unset
  | "wait" => some r.wait
  | "ulimit" => some Builtin.ulimit
  | "jobs" => some r.listJobs
  | "bg" | "fg" => some refuseControl
  | _ => none

end Runner

end CallForest.Shell
