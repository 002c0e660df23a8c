import CallForest.Shell.Builtin.Directory
import CallForest.Shell.Builtin.Reading
import CallForest.Shell.Builtin.Meaning
import CallForest.Shell.Builtin.Running
import CallForest.Shell.Builtin.Setting
import CallForest.Shell.Builtin.Trap
import CallForest.Shell.Expansion

/-!
# Commands of the extended shell

The commands of the extended shell that print, calculate, end what is running, or run texts, files
and programs, and `Runner.extendedBuiltin?`, which tells what any command of the extended shell
does. None of its errors ends the script.
-/

namespace CallForest.Shell

/-- Whether a variable, or one of its keys, has a value. -/
def State.isSetNamed (st : State) (s : Octets) : Bool :=
  match Builtin.declared? s with
  | some ⟨name, index, none⟩ =>
    match st.variableNamed? name, index with
    | none, _ => false
    | some v, none => v.text?.isSome
    | some v, some key =>
      if key = ['@'] ∨ key = ['*'] then !v.items.isEmpty
      else if st.isTable name then (State.elementOf? v key).isSome
      else
        match Calculation.evaluate st.calculationSetting key with
        | .ok (n, _) => (State.elementOf? v (Calculation.shown n)).isSome
        | .error _ => false
  | _ => s.all Char.isDigit && !s.isEmpty && (st.parameter? (String.ofList s)).isSome

/-- Whether an option of a name is set. -/
def State.isOnNamed (st : State) (s : Octets) : Bool :=
  (extendedSettings.find? fun o => o.1.toList = s).any st.hasExtended

namespace Runner

variable (r : Runner)

/-! ## Conditions and calculations -/

/-- What judging conditions knows of a script. -/
def knowledge (st : State) : Judgement.Knowledge :=
  ⟨.shell, st.files, st.isSetNamed, st.isOnNamed⟩

/-- Tells by the status whether a condition holds. -/
def judge (inBrackets : Bool) (args : List Octets) : Run Unit := fun st =>
  match Judgement.holds (knowledge st) inBrackets args with
  | .ok holds => (.ok (), st.withStatus (if holds then 0 else 1))
  | .error problem => (.ok (), (st.warn (problem.message .shell)).withStatus 2)

/-- Calculates; the status tells whether the last value is other than zero. -/
def calculate (args : List Octets) : Run Unit := do
  let args := if args.head? = some ['-', '-'] then args.drop 1 else args
  if args.isEmpty then Run.refuse 1 "expression expected".toList
  else
    let mut status := 0
    for arg in args do
      if status < 2 then
        match ← Run.calculation? arg with
        | .ok n => status := if n = 0 then 1 else 0
        | .error e =>
          modify fun st => st.warn e.message
          status := 2
    Run.finish (min status 1)

/-! ## Printing -/

/-- Prints texts. -/
def echoWords (args : List Octets) : Run Unit := do
  let usual := (← get).isOn "xpg_echo"
  Run.say 0 (Printing.echoWithOptions .extendedShell usual args)

/-- Prints texts under a format, or gives a variable what would be printed. -/
def printFormatted (args : List Octets) : Run Unit := do
  let (given, operands) ← Builtin.options "" "v" args
  match operands with
  | [] => Builtin.showUsage
  | format :: rest =>
    let (status, complaints, text) :=
      Printing.shellFormatted .extendedShell Quoting.backslashed format rest
    for c in complaints do
      modify fun st => st.warn c
    match given.reverse.lookup 'v' with
    | none => Run.say status text
    | some name =>
      match Builtin.declared? name with
      | some d =>
        if ← Run.tryGive (← d.reference) text then Run.finish status
      | none =>
        Builtin.notName name
        Run.finish 2

/-! ## Ends -/

/-- Ends loops, as many as the argument tells. -/
def breakLoops (again : Bool) (args : List Octets) : Run Unit := do
  let depth := (← get).loopDepth
  if depth = 0 then
    Run.refuse 0 ("only meaningful in a ".toList ++ Quoting.backquote :: "for', ".toList ++
      Quoting.backquote :: "while', or ".toList ++ Quoting.backquote :: "until' loop".toList)
  else
    match ← Builtin.onlyNumber? args with
    | none =>
      Run.finish 128
      throw .exit
    | some n =>
      if n ≤ 0 then
        Run.refuse 1 (Calculation.shown n ++ ": loop count out of range".toList)
        throw (.leaveLoop false depth)
      else
        Run.finish 0
        throw (.leaveLoop again (min n.toNat depth))

/-- The status that arguments name; none if there are none. -/
def namedStatus (args : List Octets) : Run (Option Nat) := do
  if args.isEmpty then return none
  else
    match ← Builtin.onlyNumber? args with
    | some n => return some (n % 256).toNat
    | none => return some 2

/-- Ends the script. -/
def exitShell (args : List Octets) : Run Unit := do
  let status ← namedStatus args
  modify fun st => st.withStatus (status.getD (st.ending.getD st.status))
  throw .exit

/-- Ends a function or a file that is read. -/
def returnFrom (args : List Octets) : Run Unit := do
  let status ← namedStatus args
  let st ← get
  if st.functionDepth = 0 && st.sources.isEmpty then
    Run.refuse 2 ("can only ".toList ++ Quoting.backquote ::
      "return' from a function or sourced script".toList)
  else
    modify fun st => st.withStatus (status.getD st.status)
    throw .leaveFunction

/-! ## Texts, files and programs -/

/-- Runs the text that arguments make. -/
def evalText (args : List Octets) : Run Unit := do
  let (_, words) ← Builtin.options "" "" args
  let st ← get
  set { st with builtin := none, depth := st.depth + 1, lineOffset := 0 }
  r.part .evaluated ([' '].intercalate words)
  modify fun after => { after with depth := st.depth, lineOffset := st.lineOffset }

/-- Runs a file in the process of the script; what follows its name are its parameters. -/
def source (args : List Octets) : Run Unit := do
  let (_, operands) ← Builtin.options "" "" args
  match operands with
  | [] => Builtin.misuse "filename argument required".toList
  | name :: parameters =>
    let st ← get
    let path := ((partPath? st name).getD name)
    let say (text : Octets) : Run Unit :=
      modify fun st =>
        { ({ st with builtin := none }.warn text).withStatus 1 with builtin := st.builtin }
    match st.files.read (Octets.toText path) with
    | .error .isDirectory => Run.refuse 1 (path ++ ": is a directory".toList)
    | .error e => say (path ++ ": ".toList ++ e.reason.toList)
    | .ok bytes =>
      let own := !parameters.isEmpty
      modify fun st => { st with
        builtin := none
        sources := path :: st.sources
        lineOffset := 0
        parameters := if own then parameters else st.parameters
        depth := st.depth + 1 }
      fun start =>
        let (result, after) := endingAtReturn (r.part .file (Octets.ofBytes bytes)) start
        let isChanged := after.parameters != parameters
        (result, { after with
          sources := st.sources
          line := st.line
          lineOffset := st.lineOffset
          depth := st.depth
          parameters := if own && !isChanged then st.parameters else after.parameters })

/-- A path without what leads nowhere at its beginning, from the root on. -/
def fullPath (st : State) (path : Octets) : Octets :=
  if path.head? = some '/' then path
  else
    let bare := if ['.', '/'].isPrefixOf path then path.drop 2 else path
    Octets.ofText (FileSystem.pathOf st.place) ++ '/' :: bare

/-- What is started by a name from the extended shell. -/
def extendedImage (st : State) (path name : Octets) (args : List Octets) :
    Except OsError Image := do
  let p ← st.programPath path name
  st.image "bash" p name args

/-- Goes on as a program for good, if one is named. -/
def executeProgram (args : List Octets) : Run Unit := do
  let (given, operands) ← Builtin.options "cl" "a" args
  match operands with
  | [] => Run.finish 0
  | name :: rest =>
    let st ← get
    match extendedImage st st.path name rest with
    | .ok image =>
      if given.any fun o => o.1 = 'c' then
        modify fun st => { st with bindings := st.bindings.filter fun v => !v.exported }
      r.replaceBy { image with name := (given.reverse.lookup 'a').getD image.name }
    | .error e =>
      if '/' ∈ name then
        let path := fullPath st name
        let reason := match st.files.entry (Octets.toText path) with
          | .ok (.directory _ _) => OsError.isDirectory.reason
          | _ => e.reason
        modify fun st =>
          { { st with builtin := none }.warn (path ++ ": ".toList ++ reason.toList) with
            builtin := st.builtin }
        if e ≠ .notFound then
          Run.refuse 126 (path ++ ": cannot execute: ".toList ++ reason.toList)
        else Run.finish 127
      else Run.refuse (startStatus e) (name ++ ": ".toList ++ startProblem e)
      throw .exit

/-- Waits for commands in the background. -/
def waitEach (args : List Octets) : Run Unit := do
  let (given, operands) ← Builtin.options "fn" "p" args
  let has (c : Char) : Bool := given.any fun o => o.1 = c
  match operands with
  | [] =>
    if has 'n' then
      match (ownJobs (← get)).filter fun j => !j.waited with
      | [] => Run.finish 127
      | job :: _ =>
        match ← r.waitFor job.number with
        | some (status, _) =>
          modify fun st => { st.withStatus status with
            jobs := st.jobs.filter fun j => j.number ≠ job.number }
        | none => Run.finish 127
    else
      r.waitForAll
      modify fun st => { st with jobs := st.jobs.filter fun j => j.owner ≠ st.identity }
  | operands =>
    let mut status := 0
    for arg in operands do
      let number : Option Nat ← match arg with
        | '%' :: position =>
          match ((ownJobs (← get)).filter fun j => !j.waited)[keyNumber position - 1]? with
          | some job => pure (some job.number)
          | none =>
            modify fun st => st.warn (arg ++ ": no such job".toList)
            status := 127
            pure none
        | arg =>
          if arg.isEmpty || !arg.all Char.isDigit then
            modify fun st => st.warn (Quoting.backquote :: arg ++
              "': not a pid or valid job spec".toList)
            status := 1
            pure none
          else pure (some (keyNumber arg))
      if let some number := number then
        match ← r.waitFor number with
        | some (s, _) => status := s
        | none =>
          modify fun st => st.warn ("pid ".toList ++ Text.decimal number ++
            " is not a child of this shell".toList)
          status := 127
    Run.finish (statusOfWait status (← get).pending)

/-- Tells from where the function was called that is running, or one of those around it. -/
def caller (args : List Octets) : Run Unit := do
  let (_, operands) ← Builtin.options "" "" args
  let st ← get
  let file := (st.sources[1]?).getD st.name
  match operands with
  | [] =>
    match st.calls with
    | (_, line) :: _ => Run.say 0 (Text.decimal line ++ ' ' :: file ++ ['\n'])
    | [] => Run.say 0 "0 NULL\n".toList
  | arg :: _ =>
    match Numeral.decimal? arg with
    | none => Builtin.misuse (arg ++ ": invalid number".toList)
    | some n =>
      match st.calls[n.toNat]? with
      | none => Run.finish 1
      | some (_, line) =>
        let name := (st.calls[n.toNat + 1]?.map Prod.fst).getD "main"
        Run.say 0 (Text.decimal line ++ ' ' :: name.toList ++ ' ' :: file ++ ['\n'])

/-- What a command of the extended shell does, by its name; those that put another command in front
of a call are left out. -/
def extendedBuiltin? (lists : ListArguments) (name : String) : Option Builtin :=
  match name with
  | "alias" => some Builtin.aliasEach
  | "unalias" => some Builtin.unaliasEach
  | "." | "source" => some r.source
  | "bg" | "fg" => some fun _ => Run.refuse 1 "no job control".toList
  | "break" => some (breakLoops false)
  | "continue" => some (breakLoops true)
  | "caller" => some caller
  | "cd" => some Builtin.changeDirectory
  | "chdir" => none
  | "declare" | "typeset" => some (Builtin.declare lists)
  | "dirs" => some Builtin.dirs
  | "disown" => some fun _ => Run.refuse 1 "current: no such job".toList
  | "echo" => some echoWords
  | "eval" => some r.evalText
  | "exec" => some r.executeProgram
  | "exit" => some exitShell
  | "export" => some (Builtin.exportEach r.traceIfWanted lists)
  | "hash" => some Builtin.hashEach
  | "kill" => some (Builtin.killEach r.endJob)
  | "let" => some calculate
  | "local" => some (Builtin.declareLocal lists)
  | "logout" => some fun _ =>
    Run.refuse 1 ("not login shell: use ".toList ++ Quoting.backquote :: "exit'".toList)
  | "mapfile" | "readarray" => some Builtin.mapfile
  | "popd" => some Builtin.popd
  | "printf" => some printFormatted
  | "pushd" => some Builtin.pushd
  | "read" => some Builtin.readInto
  | "readonly" => some (Builtin.readonlyEach r.traceIfWanted lists)
  | "return" => some returnFrom
  | "set" => some fun args => do
    if args.isEmpty then
      Run.say 0 ((Builtin.sorted (← get).bindings).flatMap Variable.setting)
    else Builtin.change args
  | "shift" => some Builtin.shiftSome
  | "shopt" => some Builtin.shopt
  | "suspend" => some fun _ => Run.refuse 1 "cannot suspend: no job control".toList
  | "test" => some (judge false)
  | "[" => some (judge true)
  | "times" => some fun args => do
    let _ ← Builtin.options "" "" args
    Run.say 0 "0m0.000s 0m0.000s\n0m0.000s 0m0.000s\n".toList
  | "trap" => some Builtin.trapAll
  | "type" => some Builtin.typeEach
  | "unset" => some Builtin.unsetEach
  | "wait" => some r.waitEach
  | "bind" | "compgen" | "complete" | "compopt" | "enable" | "fc" | "help" | "history" | "jobs" =>
    some fun _ => Run.finish 0
  | name => r.builtin? name

end Runner

end CallForest.Shell
