import CallForest.Program.Loader
import CallForest.Shell.Builtin.Option
import CallForest.Shell.Grammar

/-!
# Names of commands

What a name stands for when it is the first word of a call: a function, a command of the shell, or
a program that is found in one of the directories of `PATH`.
-/

namespace CallForest.Shell

/-- The commands of the shell besides the special ones. -/
def regularNames : List String :=
  ["[", "alias", "bg", "cd", "chdir", "command", "echo", "false", "fg", "getopts", "hash", "jobs",
    "kill", "printf", "pwd", "read", "test", "true", "type", "ulimit", "umask", "unalias",
    "wait"]

/-- The reserved words. -/
def reservedNames : List String :=
  ["!", "case", "do", "done", "elif", "else", "esac", "fi", "for", "if", "in", "then", "until",
    "while", "\x7b", "\x7d"]

/-- The directories in which programs are looked for when nothing else is said. -/
def defaultPath : Octets :=
  "/usr/local/sbin:/usr/local/bin:/usr/sbin:/usr/bin:/sbin:/bin".toList

/-- What a name stands for. -/
inductive Named where
  | reserved
  | function
  | special
  | builtin
  | program (path : Octets)
  | missing (e : OsError)
  deriving DecidableEq, Repr

namespace State

/-- The path of the program of a name. -/
def programPath (st : State) (path : Octets) (name : Octets) : Except OsError Octets :=
  if '/' ∈ name then .ok name
  else if name.isEmpty && st.isExtended then .error .notFound
  else Loader.search st.files (path.splitOn ':') name

/-- The directories in which programs are looked for; without any, in the working directory. -/
def path (st : State) : Octets := (st.value? "PATH").getD []

/-- What a name stands for in a call. -/
def named (st : State) (path : Octets) (name : Octets) : Named :=
  let text := String.ofList name
  if text ∈ specialNames then .special
  else if st.functions.any fun f => f.1 = text then .function
  else if text ∈ regularNames then .builtin
  else
    match st.programPath path name with
    | .ok p => .program p
    | .error e => .missing e

end State

/-- What is said of a program that cannot be started. -/
def startProblem (e : OsError) : Octets :=
  (if e = .notFound ∨ e = .notDirectory then "not found" else e.reason).toList

/-- The status of a program that cannot be started. -/
def startStatus (e : OsError) : Nat :=
  if e ∈ [.notFound, .notDirectory, .nameTooLong, .tooManyLinks] then 127 else 126

namespace Builtin

/-- The line that defines an alias. -/
def aliasLine (name : String) (value : Octets) : Octets :=
  name.toList ++ '=' :: quoted value ++ ['\n']

/-- Defines aliases or shows them. -/
def alias' : Builtin := fun args => do
  if args.isEmpty then
    let sorted := (← get).aliases.reverse.mergeSort fun a b => summedPlace a.1 ≤ summedPlace b.1
    Run.print (sorted.flatMap fun a => aliasLine a.1 a.2)
  let mut status := 0
  for arg in args do
    let name := arg.take 1 ++ (arg.drop 1).takeWhile (· ≠ '=')
    let text := String.ofList name
    if name.length < arg.length then
      let value := arg.drop (name.length + 1)
      modify fun st => { st with
        aliases :=
          if st.aliases.any (·.1 = text) then
            st.aliases.map fun a => if a.1 = text then (text, value) else a
          else (text, value) :: st.aliases }
    else
      match (← get).aliases.lookup text with
      | some value => Run.print (aliasLine text value)
      | none =>
        modify fun st => st.put 2 ("alias: ".toList ++ name ++ " not found\n".toList)
        status := 1
  Run.finish status

/-- Takes aliases back; all of them with `-a`. -/
def unalias : Builtin := fun args => do
  let (given, names) ← options "a" "" args
  if !given.isEmpty then
    modify fun st => { st.withStatus 0 with aliases := [] }
  else
    let mut status := 0
    for name in names do
      let text := String.ofList name
      if (← get).aliases.any (·.1 = text) then
        modify fun st => { st with aliases := st.aliases.filter (·.1 ≠ text) }
      else
        modify fun st => st.put 2 ("unalias: ".toList ++ name ++ " not found\n".toList)
        status := 1
    Run.finish status

/-- Tells what a name stands for: by its path or name, or, if it is `verbose`, in a sentence. The
result tells whether it stands for anything. -/
def describe (verbose : Bool) (path : Octets) (name : Octets) : Run Bool := do
  let st ← get
  let say (short : Octets) (long : String) : Run Bool := do
    Run.print (if verbose then name ++ long.toList ++ ['\n'] else short ++ ['\n'])
    return true
  if String.ofList name ∈ reservedNames then say name " is a shell keyword"
  else if let some value := st.aliases.lookup (String.ofList name) then
    Run.print (if verbose then name ++ " is an alias for ".toList ++ value ++ ['\n']
      else "alias ".toList ++ aliasLine (String.ofList name) value)
    return true
  else
    match st.named path name with
    | .reserved => say name " is a shell keyword"
    | .function => say name " is a shell function"
    | .special => say name " is a special shell builtin"
    | .builtin => say name " is a shell builtin"
    | .program p =>
      let isProgram := (st.files.entry (Octets.toText p)).toOption.any st.files.isExecutable
      if '/' ∈ name && !isProgram then
        if verbose then Run.print (name ++ ": not found\n".toList)
        return false
      else
        let isTracked := String.ofList name ∈ st.tracked
        let front := if isTracked then " is a tracked alias for " else " is "
        Run.print (if verbose then name ++ front.toList ++ p ++ ['\n'] else p ++ ['\n'])
        unless '/' ∈ name do
          modify (·.track (String.ofList name))
        return true
    | .missing _ =>
      if verbose then Run.print (name ++ ": not found\n".toList)
      return false

/-- Tells what names stand for. -/
def describeAll (verbose : Bool) (path : Octets) (names : List Octets) : Run Unit := do
  let mut status := 0
  for name in names do
    unless ← describe verbose path name do status := 127
  Run.finish status

/-- Tells in sentences what names stand for. -/
def type : Builtin := fun names => do
  describeAll true (← get).path names

/-- The place of a program among those whose paths are known, which decides on the order in which
they are shown. -/
def place (program : String) : Nat :=
  let codes := program.toList.map Char.toNat
  (codes.foldl (· + ·) (16 * codes.headD 0) % 32768) % 31

/-- Shows the programs whose paths are known, looks programs up, or forgets all with `-r`. -/
def hash : Builtin := fun args => do
  let (forgets, names) ← options "r" "" args
  let st ← get
  if !forgets.isEmpty then
    set { st.withStatus 0 with tracked := [] }
  else if names.isEmpty then
    for program in st.tracked.mergeSort fun a b => place a ≤ place b do
      match st.programPath st.path program.toList with
      | .ok path => Run.print (path ++ ['\n'])
      | .error _ => pure ()
    Run.finish 0
  else
    let mut status := 0
    for name in names do
      modify fun st => { st with tracked := st.tracked.erase (String.ofList name) }
      match (← get).named st.path name with
      | .program _ => unless '/' ∈ name do modify (·.track (String.ofList name))
      | .missing e =>
        modify (·.warn (name ++ ": ".toList ++ startProblem e))
        status := 1
      | _ => pure ()
    Run.finish status

end Builtin

end CallForest.Shell
