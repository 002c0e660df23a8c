import CallForest.Shell.Builtin.Setting
import CallForest.Shell.Starter.Arguments
import CallForest.Shell.Starter.Awk
import CallForest.Shell.Starter.Environment
import CallForest.Shell.Starter.Timing

/-!
# Shells as programs

How a process goes on as a shell, with what its arguments ask for. `Runner.become` says how a
process goes on as any program of the machine.
-/

namespace CallForest.Shell

namespace Runner

variable (r : Runner)

/-! ## The shell -/

/-- The version of the extended shell. -/
def extendedVersion : String := "5.2.15(1)-release"

/-- The kind of machine that the extended shell is for. -/
def machineKind : String := "x86_64-pc-linux-gnu"

/-- The variables that the extended shell has from its beginning; `level` is how many of them are
in each other. -/
def extendedVariables (parent level : Nat) : List Variable :=
  let text (name value : String) : Variable :=
    { Variable.unset name with value := some value.toList }
  let number (name : String) (n : Nat) : Variable :=
    { Variable.unset name with value := some (Text.decimal n), readOnly := true, marks := ['i'] }
  let versions := ["5", "2", "15", "1", "release", machineKind].map String.toList
  [text "BASH" "/bin/bash", text "BASH_VERSION" extendedVersion,
    { Variable.unset "BASH_VERSINFO" with elements := some (.ofValues versions), readOnly := true },
    number "UID" 0, number "EUID" 0, number "PPID" parent, text "HOSTTYPE" "x86_64",
    text "MACHTYPE" machineKind, text "OSTYPE" "linux-gnu", text "IFS" " \t\n",
    text "OPTERR" "1", { text "OPTIND" "1" with marks := ['i'] }, text "PS4" "+ ",
    text "SHELL" "/bin/bash", text "TERM" "dumb", text "HOSTNAME" "localhost",
    { text "SHLVL" (toString level) with exported := true }]

/-- Gives a shell the variables that it has from its beginning. -/
def withFirstVariables (dialect : Dialect) (parent : Nat) (st : State) : State :=
  let st := if (st.binding? "PATH").isSome then st else st.assign "PATH" defaultPath
  match dialect with
  | .plain =>
    let st := [("PS1", "# "), ("PS2", "> "), ("PS4", "+ ")].foldl (fun (st : State) v =>
      if (st.binding? v.1).isSome then st else st.assign v.1 v.2.toList) st
    [("IFS", [' ', '\t', '\n']), ("OPTIND", ['1']), ("PPID", Text.decimal parent)].foldl
      (fun (st : State) v => st.assign v.1 v.2) st
  | .extended =>
    let level := keyNumber ((st.value? "SHLVL").getD []) + 1
    let always := ["IFS", "OPTIND", "OPTERR", "SHLVL", "PPID", "UID", "EUID", "BASH_VERSION"]
    let st := (extendedVariables parent level).foldl (fun (st : State) v =>
      if (st.binding? v.name).isSome && !always.contains v.name then st else st.bind v) st
    if (st.binding? "OLDPWD").isSome then st
    else st.bind { Variable.unset "OLDPWD" with exported := true }

/-- The state of a shell that has just been started in a process, from what the process was. -/
def freshShell (dialect : Dialect) (st : State) (name : Octets) : State :=
  let kept := st.exportedVariables.filter fun v => dialect = .plain || v.name ≠ "_"
  let bindings := kept.map fun v => Variable.forPrograms v.name (v.value.getD [])
  let location := st.files.workingDirectory
  let place := match (st.value? "PWD").map Octets.toText with
    | some path =>
      let isHere := path.startsWith "/" && match st.files.resolve path with
        | .ok target => target.entry.isSome && target.location == location
        | .error _ => false
      if isHere then
        if path.startsWith "//" && !path.startsWith "///" then "" :: Path.pieces path
        else Path.pieces path
      else location
    | none => location
  let here := Octets.ofText (pathOfPlace place)
  let extended := dialect = .extended
  let start : Process :=
    { dialect := dialect
      number := st.identity
      identity := st.identity
      outer := st.outer
      name := name
      sources := []
      place := place
      visited := []
      bindings := bindings
      functions := []
      origins := []
      aliases := []
      parameters := []
      options := if extended then ['h', 'B'] else []
      switches := if extended then usualSwitches else []
      descriptors := st.descriptors
      traps := st.traps.filter fun t => t.2.isEmpty
      status := 0
      outputStatus := 0
      pipeStatuses := [0]
      line := 0
      lineOffset := 0
      calls := []
      depth := 0
      lastWord := name
      substitutes := []
      builtin := none
      tested := false
      functionDepth := 0
      loopDepth := 0
      isSubshell := false
      locals := []
      lastJob := none
      optionPlace := .start
      ending := none
      tracked := []
      isSingle := false
      lastWait := 0
      limits := st.limits
      niceness := st.niceness }
  let st := { st with toProcess := start, pending := [] }
  let parent := (start.outer.head?.map Prod.fst).getD 1
  (withFirstVariables dialect parent st).bind (.forPrograms "PWD" here)

/-- Goes on as a shell with a name and positional parameters. -/
def asShell (name : Octets) (parameters : List Octets) : Run Unit :=
  modify fun st => { st with name := name, parameters := parameters, line := 1 }

/-- Runs what can be read as a script. -/
def scriptOfInput : Run Unit := do
  let text := (← get).unread 0
  modify fun st => (st.readUpTo 0 []).drained 0
  r.script .file text

/-- Runs the shell as its arguments ask for. -/
def shellBody (name : Octets) (args : List Octets) : Run Unit := do
  let a ← setOptions true none args
  let readInput (parameters : List Octets) : Run Unit := do
    asShell name parameters
    modify (·.withOption 's' true)
    r.scriptOfInput
  match a.commandText, a.operands with
  | true, [] => Run.abort "-c requires an argument".toList
  | true, text :: rest =>
    asShell (rest.headD name) (rest.drop 1)
    r.script .argument text
  | false, [] => readInput []
  | false, path :: rest =>
    let st ← get
    if st.has 's' then readInput a.operands
    else
      match st.files.read (Octets.toText path) with
      | .ok bytes =>
        asShell path rest
        r.script .file (Octets.ofBytes bytes)
      | .error .isDirectory => return
      | .error e => Run.abort (openProblem .plain .read path e)

/-- The long options of the extended shell. -/
def longOptions : List String :=
  ["debug", "debugger", "dump-po-strings", "dump-strings", "help", "init-file", "login",
    "noediting", "noprofile", "norc", "posix", "pretty-print", "rcfile", "restricted", "verbose",
    "version"]

/-- How the extended shell is used as a program. -/
def extendedUsage : String :=
  "Usage:\tbash [GNU long option] [option] ...\n" ++
  "\tbash [GNU long option] [option] script-file ...\nGNU long options:\n" ++
  String.join (longOptions.map fun o => "\t--" ++ o ++ "\n") ++
  "Shell options:\n\t-ilrsD or -c command or -O shopt_option\t\t(invocation only)\n" ++
  "\t-abefhkmnptuvxBCEHPT or -o option\n"

/-- Ends a shell that has not begun yet because of its arguments. -/
def refuseStart {α : Type} (name : Octets) (status : Nat) (text : String) : Run α := do
  modify fun st => (st.put 2 (name ++ ": ".toList ++ text.toList)).withStatus status
  throw .exit

/-- Sets what the letters of an argument of the extended shell ask for; the result tells whether
there was `c`, and how the next arguments are used. -/
def startLetters (name : Octets) (value : Bool) : Octets → Run (Bool × Octets)
  | [] => return (false, [])
  | c :: cs => do
    if c = 'c' then
      let (_, named) ← startLetters name value cs
      return (true, named)
    else if c = 'o' ∨ c = 'O' then
      let (text, named) ← startLetters name value cs
      return (text, c :: named)
    else
      if extendedSettings.any fun s => s.2 == some c || c == 's' then modify (·.withOption c value)
      else unless c = 'i' ∨ c = 'l' ∨ c = 'r' ∨ c = 'D' do
        refuseStart name 2 (String.ofList [if value then '-' else '+', c] ++ ": invalid option\n" ++
          extendedUsage)
      startLetters name value cs

/-- Sets the options in front of the arguments of the extended shell. `awaiting` tells which of the
next arguments are names of options, and whether those are set. -/
def startOptions (name : Octets) (awaiting : Octets) (value : Bool) :
    List Octets → Run SettingArguments
  | [] => return ⟨false, false, []⟩
  | arg :: args => do
    match awaiting with
    | c :: more =>
      if c = 'o' then setNamed (some arg) value
      else if (switchNames.any fun s => s.1.toList = arg) then
        modify (·.withSwitch (String.ofList arg) value)
      else refuseStart name 2 (String.ofList arg ++ ": invalid shell option name\n")
      startOptions name more value args
    | [] =>
      match arg with
      | ['-'] | ['-', '-'] => return ⟨false, true, args⟩
      | '-' :: '-' :: long =>
        if !longOptions.contains (String.ofList long) then
          refuseStart name 2 ("--" ++ String.ofList long ++ ": invalid option\n" ++ extendedUsage)
        match String.ofList long with
        | "version" =>
          Run.print ("GNU bash, version " ++ extendedVersion ++ " (" ++ machineKind ++ ")\n").toList
          throw .exit
        | "posix" => modify (·.withSwitch "posix" true)
        | "verbose" => modify (·.withOption 'v' true)
        | _ => pure ()
        startOptions name [] true args
      | sign :: c :: cs =>
        if sign = '-' ∨ sign = '+' then
          let (text, named) ← startLetters name (sign == '-') (c :: cs)
          let others ← startOptions name named (sign == '-') args
          return { others with commandText := others.commandText || text }
        else return ⟨false, false, arg :: args⟩
      | _ => return ⟨false, false, arg :: args⟩

/-- Runs the extended shell as its arguments ask for. -/
def extendedBody (name : Octets) (args : List Octets) : Run Unit := do
  let a ← startOptions name [] true args
  match a.commandText, a.operands with
  | true, [] => refuseStart name 2 "-c: option requires an argument\n"
  | true, text :: rest =>
    asShell (rest.headD name) (rest.drop 1)
    modify (·.withOption 'c' true)
    r.script .argument text
  | false, [] =>
    asShell name []
    modify (·.withOption 's' true)
    r.scriptOfInput
  | false, path :: rest =>
    let st ← get
    if st.has 's' then
      asShell name a.operands
      r.scriptOfInput
    else
      match st.files.read (Octets.toText path) with
      | .ok bytes =>
        let text := Octets.ofBytes bytes
        let isBinary := (text.takeWhile (· ≠ '\n')).any fun c => c.toNat = 0
        if isBinary then
          refuseStart path 126 (String.ofList path ++ ": cannot execute binary file\n")
        asShell path rest
        r.script .file text
      | .error .isDirectory =>
        refuseStart path 126 (String.ofList path ++ ": Is a directory\n")
      | .error e => refuseStart name 127 (String.ofList path ++ ": " ++ e.reason ++ "\n")

/-- Runs the shell of a language as a program. -/
def shellProgram (dialect : Dialect) (name : Octets) (args : List Octets) : Run Unit := do
  modify fun st => freshShell dialect st name
  match dialect with
  | .plain => r.toEnd (r.shellBody name args)
  | .extended => r.toEnd (r.extendedBody name args)

/-! ## Programs of the machine -/

/-- Goes on as a program of the machine. The first argument bounds how often one program goes on as
another. -/
def become : Nat → Image → Run Unit
  | 0, _ => Run.finish 126
  | steps + 1, image => do
    let next := become steps
    match image.program with
    | "sh" | "dash" => r.shellProgram .plain image.name image.args
    | "bash" => r.shellProgram .extended image.name image.args
    | "sleep" => r.sleepProgram image.name image.args
    | "env" => envProgram next image.name image.args
    | "timeout" => r.timeoutProgram next image.name image.args
    | "xargs" => r.xargsProgram next image.name image.args
    | "awk" | "mawk" => r.awkProgram next image.name image.args
    | "nice" => niceProgram next image.name image.args
    | "nohup" => nohupProgram next image.name image.args
    | "setsid" => setsidProgram next image.name image.args
    | "stdbuf" => stdbufProgram next image.name image.args
    | "kill" =>
      modify fun st => freshShell .plain st image.name
      r.toEnd (r.script .argument ("kill ".toList ++ [' '].intercalate image.args))
    | name =>
      match Program.named? name with
      | some program => Run.program name program image.name image.args
      | none => Run.finish 126

/-- How often one program may go on as another. -/
def maxStarts : Nat := 100

/-- Goes on as what is started. -/
def start (image : Image) : Run Unit := do
  modify State.withOrderedEnvironment
  r.become maxStarts image

end Runner

end CallForest.Shell
