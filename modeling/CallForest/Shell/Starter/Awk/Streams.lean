import CallForest.Program.Awk.Memory
import CallForest.Shell.Start

/-!
# Inputs and outputs of scripts of rules

A script of rules can run commands, take their output and give them input, and read and write files.
What it prints is kept back until a command is started or the script ends.
-/

namespace CallForest.Shell

open CallForest.Awk

/-- How an action is left in the middle. -/
inductive Jump where
  | leave
  | goOn
  | next
  | nextFile
  | exit
  | giveBack (v : Value)
  /-- Something is wrong with what the script does. -/
  | fails (text : Octets)
  /-- Something is wrong with what it works on. -/
  | stops (text : Octets)

/-- A step of a script of rules. -/
abbrev Act := ExceptT Jump (StateT Memory Run)

/-- How a command is run: its text, its input if it is not that of the script, and whether its
output is taken; its status and that output. -/
abbrev CommandRunner := Octets → Option Octets → Bool → Run (Nat × Octets)

namespace Act

/-- Does something of the process. -/
def ofRun {α : Type} (x : Run α) : Act α := liftM x

/-- Does something with what is remembered. -/
def remembering {α : Type} (f : Memory → α × Memory) : Act α := do
  let (a, m) := f (← get)
  set m
  return a

/-! ## Streams -/

/-- Writes what is printed. -/
def flush : Act Unit := do
  let m ← get
  set { m with printed := [] }
  let st ← ofRun get
  let (st, result) := st.write 1 m.printed.reverse.flatten
  ofRun (set st)
  if let .error e := result then modify ({ · with outputProblem := some e })

/-- Runs a command. -/
def command (run : CommandRunner) (text : Octets) (input : Option Octets) (takes : Bool) :
    Act (Nat × Octets) := do
  flush
  ofRun (run text input takes)

/-- Fails because an input cannot be read. -/
def failReading {α : Type} (e : OsError) : Act α :=
  throw (.stops ("read error (".toList ++ e.reason.toList ++ [')']))

/-- Takes all of the input of the script. -/
def takeInput : Act Octets := do
  let st ← ofRun get
  match st.inputProblem? 0 with
  | some e => failReading e
  | none =>
    ofRun (modify fun st => (st.readUpTo 0 []).drained 0)
    return st.unread 0

/-- The content of a file. -/
def readFile (path : Octets) : Act (Except OsError Octets) := do
  if path = ['-'] || path = "/dev/stdin".toList then return .ok (← takeInput)
  else
    let st ← ofRun get
    return (st.files.read (Octets.toText path)).map Octets.ofBytes

/-- Changes the files by an operation, or fails because a file cannot be opened. -/
def changeFile (path : Octets) (operation : FileSystem → FileSystem × Except OsError Unit) :
    Act Unit := do
  let st ← ofRun get
  let (files, result) := operation st.files
  ofRun (set { st with files := files })
  match result with
  | .ok () => return
  | .error e =>
    throw (.stops ("cannot open \"".toList ++ path ++ "\" for output (".toList ++
      e.reason.toList ++ [')']))

/-- Prints a text to a place. -/
def printTo (kind : OutputKind) (name text : Octets) : Act Unit := do
  let isKnown := (← get).outputs.any fun o => o.isCommand == (kind == .command) && o.name == name
  let opened (isCommand : Bool) : Act Unit :=
    unless isKnown do
      modify fun m => { m with outputs := m.outputs ++ [⟨isCommand, name, []⟩] }
  if kind = .command then
    unless isKnown do flush
    opened true
    modify fun m => { m with outputs := m.outputs.map fun o =>
      if o.isCommand && o.name = name then { o with content := o.content ++ text } else o }
  else if name = ['-'] || name = "/dev/stdout".toList then
    modify fun m => { m with printed := text :: m.printed }
  else if name = "/dev/stderr".toList then ofRun (modify (·.put 2 text))
  else
    let path := Octets.toText name
    unless isKnown || kind = .fileEnd do changeFile name fun files => files.write path []
    opened false
    changeFile name fun files => files.append path (Octets.toBytes text)

/-- Closes what is open under a name: a status, or less than zero if nothing is. -/
def close (run : CommandRunner) (name : Octets) : Act Int := do
  let m ← get
  let outputs := m.outputs.filter fun o => o.name = name
  let isInput := m.inputs.any fun i => i.name = name
  set { m with
    outputs := m.outputs.filter fun o => o.name ≠ name
    inputs := m.inputs.filter fun i => i.name ≠ name }
  let mut status : Int := if outputs.isEmpty && !isInput then -1 else 0
  for o in outputs do
    if o.isCommand then
      let (s, _) ← command run o.name (some o.content) false
      status := s
  return status

/-- Gives the commands that are still open their input, and writes what is printed. -/
def closeAll (run : CommandRunner) : Act Unit := do
  let outputs := (← get).outputs
  modify fun m => { m with outputs := [] }
  for o in outputs do
    if o.isCommand then
      let _ ← ofRun (run o.name (some o.content) false)
  flush

/-! ## Inputs -/

/-- The name and the value of an argument that gives a variable one. -/
def assignment? (arg : Octets) : Option (String × Octets) :=
  let name := arg.takeWhile isNamed
  match arg.drop name.length with
  | '=' :: value =>
    if name.head?.any (!·.isDigit) then some (String.ofList name, unescaped value) else none
  | _ => none

/-- Opens the next input, and tells whether there was one. The first argument bounds the number of
arguments that are none. -/
def openNext : Nat → Act Bool
  | 0 => return false
  | count + 1 => do
    let m ← get
    if clamped (m.global "ARGC").toNumber ≤ m.argument then
      if m.hasInput then return false
      else
        let s ← takeInput
        modify fun m => { m with hasInput := true, input := some s }
        return true
    else
      let (number, m) := m.tableOf "ARGV"
      let arg := m.text (((m.table number).lookup (Text.decimal m.argument)).getD .nothing)
      set { m with argument := m.argument + 1 }
      if arg.isEmpty then openNext count
      else
        match assignment? arg with
        | some (name, value) =>
          modify (·.setGlobal name (.read value))
          openNext count
        | none =>
          match ← readFile arg with
          | .error .isDirectory => failReading .isDirectory
          | .error e =>
            throw (.stops
              ("cannot open \"".toList ++ arg ++ "\" (".toList ++ e.reason.toList ++ [')']))
          | .ok s =>
            modify fun m =>
              { (m.setGlobal "FILENAME" (.text arg)).setGlobal "FNR" (.number 0.0) with
                hasInput := true, input := some s }
            return true

/-- Takes the next record of the inputs. The first argument bounds the number of inputs. -/
def nextRecord : Nat → Act (Option Octets)
  | 0 => return none
  | count + 1 => do
    let m ← get
    match m.input.bind (takeRecord (m.globalText "RS")) with
    | some (record, rest) =>
      set { m with input := some rest }
      return some record
    | none =>
      set { m with input := none }
      if ← openNext 10000 then nextRecord count else return none

/-- Takes the next record of what is open under a name, or opens it. None if that fails. -/
def recordOf (run : CommandRunner) (isCommand : Bool) (name : Octets) :
    Act (Option (Option Octets)) := do
  let m ← get
  let isMeant (i : Stream) : Bool := i.isCommand == isCommand && i.name == name
  unless m.inputs.any isMeant do
    let content ←
      if isCommand then
        let (_, s) ← command run name none true
        pure (Except.ok s)
      else readFile name
    if let .ok s := content then
      modify fun m => { m with inputs := ⟨isCommand, name, s⟩ :: m.inputs }
  let m ← get
  match m.inputs.find? isMeant with
  | none => return none
  | some i =>
    match takeRecord (m.globalText "RS") i.content with
    | none => return some none
    | some (record, rest) =>
      let left (j : Stream) : Stream := if isMeant j then { j with content := rest } else j
      set { m with inputs := m.inputs.map left }
      return some (some record)

end Act

end CallForest.Shell
