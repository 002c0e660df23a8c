import CallForest.Files.FileSystem
import CallForest.Shell.Syntax
import CallForest.Shell.Variable

/-!
# States of running scripts

What a running script knows and has open. A part of it, the process, is copied when the script goes
on in a process of its own; files, buffers, what is opened and the time are shared by all processes.
Time passes only where a program sleeps.
-/

namespace CallForest.Shell

/-- What an open file leads to. -/
inductive Target where
  /-- A buffer: what the script prints, a pipe, or a document. -/
  | buffer (number : Nat)
  /-- A file of the file system, or a directory, of which nothing can be read. -/
  | file (number : Nat)
  | directory
  | device (d : Device)
  | program
  deriving DecidableEq, Repr

/-- A file that is open: how far it has been read or written, and whether all that is written goes
to its end. -/
structure OpenFile where
  target : Target
  offset : Nat
  atEnd : Bool
  readable : Bool
  writable : Bool

/-- What is in a buffer: the pieces that have been written, the last first, and their size. A buffer
is a file without a name, or a pipe, of which is lost what has been read. -/
structure Buffer where
  pieces : List Octets
  size : Nat
  isFile : Bool
  /-- Whether more has been looked for than there was. -/
  drained : Bool

/-- The path by which a working directory was reached; a first piece without letters tells that it
begins with two slashes. -/
def pathOfPlace (place : List String) : String :=
  if place.head? = some "" then "/" ++ FileSystem.pathOf (place.drop 1) else FileSystem.pathOf place

/-- What a process may use at most of something, for now and ever; none if there is no bound. -/
structure Limit where
  soft : Option Nat
  hard : Option Nat

/-- How far a script has come with options: the next argument, the first of which has the number
one, and how much of the one before has been read if it goes on. -/
structure OptionPlace where
  next : Nat
  offset : Option Nat

/-- The place in front of the first argument. -/
def OptionPlace.start : OptionPlace := ⟨1, none⟩

/-- What a process has of its own. -/
structure Process where
  dialect : Dialect
  /-- The number of the shell, which its subshells share. -/
  number : Nat
  /-- The number of the process itself. -/
  identity : Nat
  /-- The shells that wait for this process, each with what it does when signals come. -/
  outer : List (Nat × List (String × Octets))
  name : Octets
  /-- The files that are read as parts of the script, the innermost first. -/
  sources : List Octets
  /-- The path of the working directory as it was reached, links in it included. -/
  place : List String
  /-- The directories to which the script may go back, the latest first. -/
  visited : List (List String)
  bindings : List Variable
  functions : List (String × Command)
  /-- The files that functions come from, if they do not come from the script itself. -/
  origins : List (String × Octets)
  aliases : List (String × Octets)
  parameters : List Octets
  /-- The letters of the options that are set. -/
  options : List Char
  /-- The names of what else is switched on. -/
  switches : List String
  /-- What descriptors stand for, as positions among the open files. -/
  descriptors : List (Nat × Nat)
  /-- What is run when a signal comes, or at the end for `EXIT`. -/
  traps : List (String × Octets)
  status : Nat
  /-- The status of the last command whose output was taken. -/
  outputStatus : Nat
  /-- The statuses of the commands of the last pipeline. -/
  pipeStatuses : List Nat
  line : Nat
  /-- What is to be added to the lines on which commands stand. -/
  lineOffset : Int
  /-- The functions that are running, the innermost first, with the lines of their calls. -/
  calls : List (String × Nat)
  /-- How many texts and outputs are run in each other, which is seen where commands are shown. -/
  depth : Nat
  /-- The last word of the command before. -/
  lastWord : Octets
  /-- The files that stand for processes while a command is run, with those that read them. -/
  substitutes : List (Nat × Option Command)
  /-- The command of the shell that is running. -/
  builtin : Option String
  /-- Whether a failure is looked at and so does not end the script. -/
  tested : Bool
  functionDepth : Nat
  loopDepth : Nat
  isSubshell : Bool
  /-- The variables of the function that is running, with what they were before. -/
  locals : List (List (String × Option Variable))
  lastJob : Option Nat
  /-- How far `getopts` has come. -/
  optionPlace : OptionPlace
  /-- The status with which the script ends, while the last trap is run. -/
  ending : Option Nat
  /-- The programs whose paths are known, in the order in which they came to be. -/
  tracked : List String
  /-- Whether the process is that of a single command, so that its end is its end. -/
  isSingle : Bool
  /-- When a process was last waited for. -/
  lastWait : Nat
  /-- The limits that have been set. -/
  limits : List (Char × Limit)
  /-- How much the process gives way to others. -/
  niceness : Int

/-- A command in the background: its process as it was at the beginning, and when that was. -/
structure Job where
  number : Nat
  /-- By what it is named, as long as the shell keeps it in mind. -/
  place : Nat
  /-- The process that began it. -/
  owner : Nat
  command : Command
  process : Process
  workingDirectory : List String
  mask : Mode
  start : Nat
  /-- The status it ended with, and when. -/
  result : Option (Nat × Nat)
  /-- Whether it is to be said if a signal has ended it. -/
  announced : Bool
  /-- Whether it has been waited for. -/
  waited : Bool

/-- The state of a running script. -/
structure State extends Process where
  files : FileSystem
  opened : Array OpenFile
  buffers : Array Buffer
  documents : List (Nat × Word)
  nextDocument : Nat
  /-- The time, in microseconds. -/
  clock : Nat
  limit : Option Nat
  jobs : List Job
  /-- The number that the next process gets. -/
  nextNumber : Nat
  /-- The signals that have come and whose traps are not run yet. -/
  pending : List Nat
  /-- The signals that have been sent to shells that wait. -/
  sent : List (Nat × Nat)
  /-- How many commands may still be run. -/
  budget : Nat

/-- How a script is stopped in the middle. -/
inductive Stop where
  | exit
  /-- An error of the shell itself. -/
  | fault
  /-- An error after which the script goes on with its next line. -/
  | nextLine
  /-- A signal has ended the shell of a number. -/
  | killed (shell signal : Nat)
  | timeUp
  /-- Leaves so many loops; the last of them goes on if `again`. -/
  | leaveLoop (again : Bool) (levels : Nat)
  | leaveFunction
  deriving DecidableEq, Repr

/-- A step of running a script. -/
abbrev Run := ExceptT Stop (StateM State)

/-- Text put into a content from an offset on. -/
def overlay {α : Type} (blank : α) (content : List α) (offset : Nat) (s : List α) : List α :=
  if offset = content.length then content ++ s
  else
    content.take offset ++ List.replicate (offset - content.length) blank ++ s ++
      content.drop (offset + s.length)

namespace Buffer

/-- The buffer of a content. -/
def ofContent (content : Octets) (isFile : Bool) : Buffer :=
  ⟨if content.isEmpty then [] else [content], content.length, isFile, false⟩

/-- All that is in a buffer. -/
def content (b : Buffer) : Octets :=
  match b.pieces with
  | [] => []
  | [s] => s
  | pieces => pieces.reverse.flatten

/-- A buffer with a text put into it from an offset on. -/
def put (b : Buffer) (offset : Nat) (s : Octets) : Buffer :=
  if offset = b.size then { b with pieces := s :: b.pieces, size := b.size + s.length }
  else .ofContent (overlay (Char.ofNat 0) b.content offset s) b.isFile

end Buffer

namespace State

/-! ## Variables -/

/-- The variable of a name. -/
def binding? (st : State) (name : String) : Option Variable :=
  st.bindings.find? fun v => v.name = name

/-- The value of a variable. -/
def value? (st : State) (name : String) : Option Octets :=
  (st.binding? name).bind Variable.text?

/-- Puts a variable in the place of that of its name. -/
def bind (st : State) (v : Variable) : State :=
  let others := st.bindings
  { st with bindings :=
      if others.any fun w => w.name = v.name then
        others.map fun w => if w.name = v.name then v else w
      else v :: others }

/-- Removes a variable. -/
def unbind (st : State) (name : String) : State :=
  { st with bindings := st.bindings.filter fun v => v.name ≠ name }

/-- Puts a variable back that may not have been there. -/
def restore (st : State) (name : String) (v : Option Variable) : State :=
  match v with
  | some v => st.bind v
  | none => st.unbind name

/-- Gives a variable a value; its marks stay. -/
def assign (st : State) (name : String) (value : Octets) : State :=
  let old := (st.binding? name).getD (.unset name)
  let st := if name = "PATH" then { st with tracked := [] } else st
  st.bind { old.withText value with exported := old.exported || st.options.contains 'a' }

/-- Keeps in mind that the path of a program is known. -/
def track (st : State) (program : String) : State :=
  if program ∈ st.tracked then st else { st with tracked := st.tracked ++ [program] }

/-- Goes on with a command that stands on a line. -/
def atLine (st : State) (line : Nat) : State := { st with line := (line + st.lineOffset).toNat }

/-- Whether an option is set. -/
def has (st : State) (option : Char) : Bool := st.options.contains option

/-- Whether something is switched on by a name. -/
def isOn (st : State) (name : String) : Bool := st.switches.contains name

/-- Whether the script is in the extended language. -/
def isExtended (st : State) : Bool := st.dialect == .extended

/-- The variables that programs see, the latest first. -/
def exportedVariables (st : State) : List Variable :=
  st.bindings.filter fun v => v.exported && v.value.isSome

/-- The environment of a program, in order. -/
def environment (st : State) : List (String × Octets) :=
  st.exportedVariables.reverse.filterMap fun v => v.value.map fun s => (v.name, s)

/-- Leaves only the variables that programs see, in the order in which a shell lists them. The
variable that names the program itself comes last. -/
def withOrderedEnvironment (st : State) : State :=
  let all := st.exportedVariables
  { st with bindings :=
      match st.dialect with
      | .plain => (all.reverse.mergeSort fun a b => summedPlace a.name ≤ summedPlace b.name).reverse
      | .extended =>
        let place (v : Variable) : Nat :=
          if v.name = "_" then mixedPlaces else mixedPlace (Octets.ofText v.name)
        (all.mergeSort fun a b => place a ≤ place b).reverse }

/-! ## Open files -/

/-- Sets a status. -/
def withStatus (st : State) (status : Nat) : State := { st with status := status }

/-- Opens a new file for a descriptor. -/
def openAs (st : State) (descriptor : Nat) (file : OpenFile) : State :=
  { st with
    opened := st.opened.push file
    descriptors := (descriptor, st.opened.size) ::
      st.descriptors.filter fun d => d.1 ≠ descriptor }

/-- Opens a new buffer with that content and gives its number. -/
def newBuffer (st : State) (content : Octets) : Nat × State :=
  (st.buffers.size, { st with buffers := st.buffers.push (.ofContent content false) })

/-- The content of a buffer. -/
def bufferContent (st : State) (number : Nat) : Octets :=
  ((st.buffers[number]?).map Buffer.content).getD []

/-- A buffer opened from its beginning. -/
def bufferFile (number : Nat) (writable : Bool) : OpenFile :=
  ⟨.buffer number, 0, writable, !writable, writable⟩

/-- Makes a descriptor stand for what another one stands for. -/
def duplicate (st : State) (descriptor source : Nat) : Option State :=
  (st.descriptors.lookup source).map fun n =>
    { st with
      descriptors := (descriptor, n) :: st.descriptors.filter fun d => d.1 ≠ descriptor }

/-- Closes a descriptor. -/
def close (st : State) (descriptor : Nat) : State :=
  { st with descriptors := st.descriptors.filter fun d => d.1 ≠ descriptor }

/-- The position and the open file behind a descriptor. -/
def openFile? (st : State) (descriptor : Nat) : Option (Nat × OpenFile) := do
  let n ← st.descriptors.lookup descriptor
  let file ← st.opened[n]?
  return (n, file)

/-- What an open file leads to, as a whole. -/
def content (st : State) (target : Target) : Octets :=
  match target with
  | .buffer n => st.bufferContent n
  | .file number => Octets.ofBytes (st.files.contentOf number)
  | .directory => []
  | .device d => Octets.ofBytes (FileSystem.deviceBytes d)
  | .program => Octets.ofBytes FileSystem.programBytes

/-- Changes the buffer of a number. -/
def changeBuffer (st : State) (number : Nat) (change : Buffer → Buffer) : State :=
  match st.buffers[number]? with
  | none => st
  | some b => { st with buffers := st.buffers.set! number (change b) }

/-- What can be read through an open file. -/
def unreadOf (st : State) (file : OpenFile) : Octets :=
  if !file.readable then []
  else
    match file.target with
    | .buffer n =>
      match st.buffers[n]? with
      | none => []
      | some b => if b.isFile then b.content.drop file.offset else b.content
    | .file number => Octets.ofBytes ((st.files.contentOf number).drop file.offset)
    | target => st.content target

/-- What can be read behind a descriptor. -/
def unread (st : State) (descriptor : Nat) : Octets :=
  match st.openFile? descriptor with
  | some (_, file) => st.unreadOf file
  | none => []

/-- Keeps in mind that more has been looked for behind a descriptor than there was. -/
def drained (st : State) (descriptor : Nat) : State :=
  match st.openFile? descriptor with
  | some (_, ⟨.buffer n, _, _, _, _⟩) => st.changeBuffer n fun b => { b with drained := true }
  | _ => st

/-- Takes as read what an open file leads to, so many bytes up to a rest. -/
def advance (st : State) (position : Nat) (file : OpenFile) (count : Nat) (rest : Octets) : State :=
  let behind := fun () =>
    { st with opened := st.opened.set! position { file with offset := file.offset + count } }
  match file.target with
  | .device _ | .directory | .program => st
  | .file _ => behind ()
  | .buffer n =>
    match st.buffers[n]? with
    | none => st
    | some b =>
      if b.isFile then behind ()
      else st.changeBuffer n fun b => { Buffer.ofContent rest false with drained := b.drained }

/-- A text cut behind its first line. -/
def lineAndRest (s : Octets) : Octets × Octets :=
  let front := s.takeWhile (· ≠ '\n')
  match s.drop front.length with
  | [] => (front, [])
  | c :: rest => (front ++ [c], rest)

/-- Takes a line of what can be read behind a descriptor, with the newline that ends it. -/
def takeLine (st : State) (descriptor : Nat) : Octets × State :=
  match st.openFile? descriptor with
  | none => ([], st)
  | some (n, file) =>
    let (line, rest) :=
      match file.target with
      | .file number =>
        let all := if file.readable then (st.files.contentOf number).drop file.offset else []
        let front := all.takeWhile (· ≠ 10)
        (Octets.ofBytes (front ++ (all.drop front.length).take 1), [])
      | _ => lineAndRest (st.unreadOf file)
    let st := st.advance n file line.length rest
    (line, if line.getLast? = some '\n' then st else st.drained descriptor)

/-- Takes as read what lies behind a descriptor, up to a rest. -/
def readUpTo (st : State) (descriptor : Nat) (rest : Octets) : State :=
  match st.openFile? descriptor with
  | some (n, file) => st.advance n file ((st.unreadOf file).length - rest.length) rest
  | none => st

/-- Writes to a descriptor, or tells why that fails. -/
def write (st : State) (descriptor : Nat) (s : Octets) : State × Except OsError Unit :=
  if s.isEmpty then (st, .ok ())
  else
    match st.openFile? descriptor with
    | none => (st, .error .badDescriptor)
    | some (n, file) =>
      if !file.writable then (st, .error .badDescriptor)
      else
        match file.target with
        | .device d =>
          (st, if d = .full then .error .noSpace else .ok ())
        | .buffer b =>
          let old := (st.buffers[b]?).getD (.ofContent [] false)
          let offset := if file.atEnd || !old.isFile then old.size else file.offset
          ({ st with
            buffers := st.buffers.set! b (old.put offset s)
            opened := st.opened.set! n { file with offset := offset + s.length } }, .ok ())
        | .directory | .program => (st, .error .badDescriptor)
        | .file number =>
          let old := st.files.contentOf number
          let offset := if file.atEnd then old.length else file.offset
          let (files, result) :=
            st.files.change number fun old => overlay 0 old offset (Octets.toBytes s)
          ({ st with
            files := files
            opened := st.opened.set! n { file with offset := offset + s.length } }, result)

/-- Writes to a descriptor as far as that works. -/
def put (st : State) (descriptor : Nat) (s : Octets) : State := (st.write descriptor s).1

/-! ## Messages -/

/-- The commands of the grammar that are named only where a calculation in them goes wrong. -/
def isGrammatical (name : String) : Bool := name = "[[" || name = "(("

/-- What the shell says of itself in front of a message. -/
def messageFront (st : State) : Octets :=
  (if st.isExtended then st.sources.headD st.name ++ ": line ".toList
    else st.name ++ ": ".toList) ++
    Text.decimal st.line ++ ": ".toList ++
    (match st.builtin with
      | some b => if isGrammatical b then [] else b.toList ++ ": ".toList
      | none => [])

/-- Says something on the error output. -/
def warn (st : State) (text : Octets) : State :=
  st.put 2 (st.messageFront ++ text ++ ['\n'])

/-! ## Processes -/

/-- Whether a command in the background has ended and the shell has taken notice: because it was
waited for or, in the plain language, because another process has been waited for since. -/
def isGone (st : State) (job : Job) : Bool :=
  job.waited || (match job.result with
    | some (_, time) => time < (if st.isExtended then st.clock else st.lastWait)
    | none => false)

/-- The state in which a copy of the process goes on. -/
def forked (st : State) : State :=
  { st with
    identity := st.nextNumber
    nextNumber := st.nextNumber + 1
    isSubshell := true
    outer := if st.isSubshell then st.outer else (st.number, st.traps) :: st.outer
    traps := st.traps.filter fun t => t.2.isEmpty
    ending := none
    isSingle := false
    lastWait := 0
    substitutes := []
    pending := [] }

/-- What is shared after another process has run, with this process as it was. It takes the signals
that it has been sent. -/
def joined (st other : State) : State :=
  let own := fun (n, _) => n == st.number && !st.isSubshell
  let done (j : Job) : Bool := !st.isExtended && j.waited && j.owner == st.identity
  { other with
    toProcess := { st.toProcess with lastWait := other.clock }
    jobs := if other.jobs.any done then other.jobs.filter fun j => !done j else other.jobs
    pending := st.pending ++ (other.sent.filter own).map Prod.snd
    sent := other.sent.filter fun s => !own s
    files := other.files.asSeenBy st.files }

end State

namespace Run

/-- Stops the script because of an error. -/
def abort {α : Type} (text : Octets) : Run α := do
  modify fun st => (st.warn text).withStatus 2
  throw .fault

/-- Stops what is done in a line because of an error; if failures end the script, this one does. -/
def giveUp {α : Type} (text : Octets) : Run α := do
  modify fun st => (st.warn text).withStatus 1
  if (← get).has 'e' then throw .exit else throw .nextLine

/-- Says something as a command of the shell that ends with a status. -/
def refuse (status : Nat) (text : Octets) : Run Unit :=
  modify fun st => (st.warn text).withStatus status

/-- Sets the status. -/
def finish (status : Nat) : Run Unit := modify (·.withStatus status)

/-- Does something and then lets those descriptors stand for what they stood for before. -/
def keepingDescriptors {α : Type} (kept : List Nat) (body : Run α) : Run α := fun st =>
  if kept.isEmpty then body st
  else
    let before := st.descriptors.filter fun d => kept.contains d.1
    let (result, after) := body st
    (result, { after with
      descriptors := before ++ after.descriptors.filter fun d => !kept.contains d.1 })

/-- Does something while failures are looked at. -/
def testing {α : Type} (body : Run α) : Run α := fun st =>
  let tested := st.tested
  let (result, after) := body { st with tested := true }
  (result, { after with tested := tested })

/-- Prints a text. -/
def print (s : Octets) : Run Unit := modify fun st => st.put 1 s

/-- Complains if what a command of the shell has printed could not be written. -/
def afterPrinting (result : Except OsError Unit) (status : Nat) (st : State) : State :=
  match result with
  | .ok () => st.withStatus status
  | .error e =>
    let text := if st.isExtended then "write error: " ++ e.reason
      else st.builtin.getD "" ++ ": I/O error"
    (st.warn text.toList).withStatus (max 1 status)

/-- Prints a text as a command of the shell, whose status is that if nothing is wrong. -/
def say (status : Nat) (s : Octets) : Run Unit := fun st =>
  let (st, result) := st.write 1 s
  (.ok (), afterPrinting result status st)

end Run

end CallForest.Shell
