import CallForest.Shell.Fields
import CallForest.Shell.Grammar
import CallForest.Shell.Signal
import CallForest.Shell.State

/-!
# Processes

How a script is run from its beginning to its end: line by line, with what is to be done when
signals come and at the end. A command in the background is not run at once but when its effects can
first be seen: when it is waited for, when time passes, or when what it writes is looked at.
-/

namespace CallForest.Shell

/-- What runs the parts of a command or of a word. -/
structure Runner where
  command : Command → Run Unit
  pieces : Bool → List Piece → Fields → Run Fields

namespace Runner

variable (r : Runner)

/-! ## Scripts -/

/-- Shows lines of a script that have been read, if that is wanted. -/
def echoLines (text : Octets) : Run Unit :=
  modify fun st => if st.has 'v' then st.put 2 text else st

/-- The lines at the beginning of a text, so many of them. -/
def linesInFront (text : Octets) : Nat → Octets
  | 0 => []
  | count + 1 =>
    let line := text.takeWhile (· ≠ '\n')
    let rest := text.drop line.length
    line ++ rest.take 1 ++ linesInFront (rest.drop 1) count

/-- What a script is that is run. -/
inductive ScriptKind where
  /-- A file, the lines of which may be shown. -/
  | file
  /-- A text that the shell is started with. -/
  | argument
  /-- A text that a command of the shell runs. -/
  | evaluated
  /-- What is to be done when a signal comes or at the end. -/
  | action
  /-- What is to be done around commands and functions. -/
  | response
  deriving DecidableEq, Repr

/-- What stands in front of the lines that tell why a script of a kind cannot be read. -/
def ScriptKind.label : ScriptKind → Octets
  | file | action | response => []
  | argument => "-c: ".toList
  | evaluated => "eval: ".toList

/-- Says why a script cannot be read. The plain shell ends then; the extended one does so unless the
script is a part of another one and failures do not end it. -/
def refuseScript (kind : ScriptKind) (isPart : Bool) (e : SyntaxError) : Run Unit := do
  let st ← get
  if st.isExtended then
    let front := st.sources.headD st.name ++ ": ".toList ++ kind.label ++ "line ".toList
    let lines := if st.has 'e' then e.extendedLines.take 1 else e.extendedLines
    let text := lines.flatMap fun (line, text) =>
      front ++ Text.decimal line ++ ": ".toList ++ text ++ ['\n']
    set ((st.put 2 text).withStatus 2)
    unless isPart && !st.has 'e' do throw .exit
  else
    set { st with line := e.line }
    Run.abort ("Syntax error: " ++ e.plainMessage).toList

/-- Says which documents of the extended language have ended without their marks. -/
def warnOfDocuments (documents : List UnmarkedDocument) : Run Unit := do
  if (← get).isExtended then
    for d in documents do
      modify fun st => { { st with line := d.last, builtin := none }.warn d.message with
        line := st.line, builtin := st.builtin }

/-- Goes on with the next line after an error that is not the end of the script. -/
def lineByLine (body : Run Unit) : Run Unit := fun st =>
  match body st with
  | (.error .nextLine, after) => (if after.isSubshell then .error .exit else .ok (), after)
  | result => result

/-- Runs a script line by line, and tells whether there was a command in it, which `found` tells of
the lines before. The first argument bounds the number of lines. -/
def lines (kind : ScriptKind) (isPart : Bool) : Nat → Reader → Bool → Run Bool
  | 0, _, found => return found
  | count + 1, reader, found => do
    let text := reader.rest
    let st ← get
    let aliases := if st.isExtended && !st.isOn "expand_aliases" then [] else st.aliases
    match { reader with aliases := aliases, groups := st.isOn "extglob" }.readLine with
    | .error e =>
      if kind = .file then echoLines (linesInFront text (e.line + 1 - reader.line))
      refuseScript kind isPart e
      return true
    | .ok (read, reader) =>
      if kind = .file && st.has 'v' then
        echoLines (text.take (text.length - reader.rest.length))
      warnOfDocuments reader.unmarked.reverse
      let reader := { reader with unmarked := [] }
      match read with
      | none => return found
      | some .nothing => lines kind isPart count reader found
      | some c =>
        modify fun st =>
          { st with documents := reader.documents, nextDocument := reader.nextDocument }
        lineByLine (r.command c)
        lines kind isPart count reader true

/-- Runs a script, and tells whether there was a command in it. -/
def scriptLines (kind : ScriptKind) (isPart : Bool) (text : Octets) : Run Bool := do
  let st ← get
  let goesOn := kind = .evaluated || kind = .response
  let line := if st.isExtended && goesOn then st.line else 1
  let text := if st.isExtended && text.getLast?.any (· ≠ '\n') then text ++ ['\n'] else text
  r.lines kind isPart (1000 * (text.length + 2))
    (.ofScript st.dialect text line st.documents st.nextDocument) false

/-- Runs a script. -/
def script (kind : ScriptKind) (text : Octets) : Run Unit := do
  let _ ← r.scriptLines kind false text

/-- Runs a script as a command of another; its status is 0 if there is nothing in it. -/
def part (kind : ScriptKind) (text : Octets) : Run Unit := do
  unless ← r.scriptLines kind true text do Run.finish 0

/-- Does what is to be done when the signals come that have come. -/
def runTraps : Run Unit := do
  let st ← get
  match st.pending with
  | [] => return
  | signals =>
    set { st with pending := [] }
    for signal in signals do
      let st ← get
      match st.traps.lookup ((Signal.name? signal).getD "") with
      | some action =>
        let status := st.status
        r.script .action action
        Run.finish status
      | none => return

/-- Does what is to be done at the end of a script, and gives the status it ends with. -/
def runExitTrap : Run Unit := fun st =>
  match st.traps.lookup Signal.exitName with
  | none | some [] => (.ok (), st)
  | some action =>
    let others := st.traps.filter fun t => t.1 ≠ Signal.exitName
    let start := { st with traps := others, ending := some st.status, tested := false }
    match r.script .action action start with
    | (.ok (), after) => (.ok (), after.withStatus st.status)
    | (.error (.killed n s), after) => (.error (.killed n s), after)
    | (.error .timeUp, after) => (.error .timeUp, after)
    | (.error .exit, after) => (.ok (), after)
    | (.error _, after) => (.ok (), after)

/-- Runs something to the end of its process. -/
def toEnd (body : Run Unit) : Run Unit := fun st =>
  match body st with
  | (.error .timeUp, after) => (.error .timeUp, after)
  | (.error (.killed n s), after) => (.error (.killed n s), after)
  | (_, after) => (r.runTraps *> r.runExitTrap) after

/-! ## Commands in the background -/

/-- Runs a command in the background, at most until a time. It counts as run only if it ends by
then, or if it `mayStop` in the middle. -/
def runJob (job : Job) (last : Option Nat) (mayStop : Bool) : Run Unit := fun st =>
  let others := st.jobs.filter fun j => j.number ≠ job.number
  let limit := match st.limit, last with
    | some a, some b => some (min a b)
    | a, none => a
    | none, b => b
  let start : State := { st with
    toProcess := job.process
    jobs := others
    clock := job.start
    limit := limit
    pending := []
    files := { st.files with workingDirectory := job.workingDirectory, mask := job.mask } }
  let (result, sub) := r.toEnd (r.command job.command) start
  let after := { st.joined sub with
    clock := st.clock, limit := st.limit, lastWait := st.lastWait }
  let ended (job : Job) (status : Nat) : State :=
    { after with jobs := { job with result := some (status, sub.clock) } :: sub.jobs }
  match result with
  | .error .timeUp =>
    if last.isNone then (.error .timeUp, after)
    else if mayStop then (.ok (), ended job (128 + 9))
    else (.ok (), st)
  | .error (.killed shell signal) =>
    if shell = job.number then (.ok (), ended { job with announced := true } (128 + signal))
    else (.error (.killed shell signal), ended job (128 + signal))
  | _ => (.ok (), ended job sub.status)

/-- The commands in the background that have not been run and that are of interest. -/
def waiting (p : Job → Bool) (st : State) : List Job :=
  (st.jobs.filter fun j => j.result.isNone && p j).reverse

/-- Runs the commands in the background that end by a time. -/
def settleUntil (time : Nat) : Run Unit := do
  for job in waiting (fun _ => true) (← get) do
    runJob r job (some time) false

/-- Runs the commands in the background that can write to a buffer. -/
def settleWriters (buffer : Nat) : Run Unit := do
  let st ← get
  let writes (j : Job) : Bool := j.process.descriptors.any fun d =>
    match st.opened[d.2]? with
    | some file => file.writable && file.target == .buffer buffer
    | none => false
  for job in waiting writes st do
    runJob r job none false
    modify fun st =>
      match st.jobs.find? fun j => j.number = job.number with
      | some { result := some (_, time), .. } => { st with clock := max st.clock time }
      | _ => st

/-- Lets time pass. -/
def sleep (time : Nat) : Run Unit := do
  let st ← get
  let clock := st.clock + time
  if st.limit.any (· < clock) then
    settleUntil r (st.limit.getD clock)
    modify fun st => { st with clock := st.limit.getD clock }
    throw .timeUp
  settleUntil r clock
  modify fun st => { st with clock := clock }

/-- Waits for the command in the background of a number; gives its status, and whether it is to be
said if a signal has ended it. None if there is no such command. -/
def waitFor (number : Nat) : Run (Option (Nat × Bool)) := do
  let find (st : State) : Option Job :=
    st.jobs.find? fun j => j.number = number && j.owner = st.identity
  match find (← get) with
  | none => return none
  | some job =>
    if job.result.isNone then runJob r job none false
    let st ← get
    match find st with
    | some { result := some (status, time), announced, .. } =>
      let noted (j : Job) : Job := if j.number = number then { j with waited := true } else j
      let now := max st.clock time
      set { st with clock := now, lastWait := now, jobs := st.jobs.map noted }
      return some (status, announced)
    | _ => return none

/-- Sends a signal to a shell that waits for this process; tells whether there is one of that
number. -/
def signalOuter (number signal : Nat) : Run Bool := do
  match (← get).outer.lookup number with
  | none => return false
  | some traps =>
    match Signal.response traps signal with
    | .ignored => return true
    | .action => modify fun st => { st with sent := st.sent ++ [(number, signal)] }
    | .death => throw (.killed number signal)
    return true

/-- Ends the command in the background of a number by a signal; tells whether there is one that has
not gone. -/
def endJob (number signal : Nat) : Run Bool := do
  let find (st : State) : Option Job := st.jobs.find? fun j => j.number = number
  match find (← get) with
  | none =>
    signalOuter number signal
  | some job =>
    let st ← get
    if st.isGone job then return false
    if job.result.isSome then return true
    if Signal.isHarmless signal then return true
    let now := (← get).clock
    runJob r job (some now) true
    modify fun st =>
      { st with jobs := st.jobs.map fun j =>
        if j.number = number && j.result.all fun x => x.1 = 137 then
          { j with result := some (128 + signal, now), announced := true }
        else j }
    return true

/-! ## Output -/

/-- Runs a script for its output, in a process of its own. -/
def outputOf (script : Command) : Run Octets := fun st =>
  let (number, child) := st.forked.newBuffer []
  let offset : Int := match if st.isExtended then script.line? else none with
    | some line => (st.line : Int) - line
    | none => 0
  let child := { child.openAs 1 (State.bufferFile number true) with
    tested := false, depth := child.depth + 1, lineOffset := offset }
  let body : Run Unit := do
    r.toEnd (r.command script)
    let status := (← get).status
    settleWriters r number
    Run.finish status
  let (result, sub) := body child
  let after := { st.joined sub with outputStatus := sub.status }
  match result with
  | .error .timeUp => (.error .timeUp, after)
  | .error (.killed n s) => (.error (.killed n s), after)
  | _ => (.ok (sub.bufferContent number), after)

end Runner

end CallForest.Shell
