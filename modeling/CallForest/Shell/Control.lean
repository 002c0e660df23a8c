import CallForest.Bytes.Octets
import CallForest.Program.Numeral
import CallForest.Shell.Condition
import CallForest.Text.Decimal

/-!
# Commands that are made of commands

How loops, choices, pipelines, subshells and the other commands that are made of commands are run,
and with that `Runner.ofDepth`, which runs any command. A command within a command takes a depth
less; when there is none left the shell has used up what it may, and is ended like a process that
has.

A script can list values for its reader to choose from, each with its number (`Selection`).
-/

namespace CallForest.Shell.Selection

/-- The distance of the stops of tabs. -/
def stop : Nat := 8

/-- The blanks and tabs that lead from one column to another. The first argument bounds their
number. -/
def gap : Nat → Nat → Nat → Octets
  | 0, _, _ => []
  | steps + 1, column, target =>
    if target ≤ column then []
    else if column / stop < target / stop then
      '\t' :: gap steps (column + stop - column % stop) target
    else ' ' :: gap steps (column + 1) target

/-- How many columns a line has. -/
def lineWidth : Nat := 80

/-- The values in columns, each behind its number. -/
def listing (values : List Octets) : Octets :=
  let digits (n : Nat) : Nat := (Text.decimal n).length
  let count := values.length
  let size := (values.map List.length).foldl max 0 + digits count + 4
  let columns := max 1 (lineWidth / size)
  let rows := (count + columns - 1) / columns
  let columns := (count + rows - 1) / rows
  let (rows, columns) := if rows = 1 then (columns, 1) else (rows, columns)
  let line (row : Nat) : Octets :=
    let entries := (List.range columns).filterMap fun column =>
      (values[row + column * rows]?).map fun value => (column, value)
    entries.flatMap fun (column, value) =>
      let number := Text.decimal (row + column * rows + 1)
      let width := if column = 0 then digits rows else digits count
      let text := List.replicate (width - number.length) ' ' ++ number ++ ')' :: ' ' :: value
      let isLast := count ≤ row + (column + 1) * rows
      text ++ (if isLast then []
        else gap size (column * size + width + 2 + value.length) ((column + 1) * size))
  (List.range rows).flatMap fun row => line row ++ ['\n']

/-- The value that an answer chooses by its number; an empty one if it is no such number. -/
def chosen (values : List Octets) (answer : Octets) : Octets :=
  let digits := answer.filter fun c => !Numeral.isBlank c
  if digits.isEmpty || !digits.all Char.isDigit then []
  else
    match (Numeral.digitsFrom 10 0 digits).1 with
    | 0 => []
    | n + 1 => values.getD n []

end CallForest.Shell.Selection

/-! ## Running what is made of commands -/

namespace CallForest.Shell

/-- The commands of a sequence, in order, in front of others. -/
def Command.steps (c : Command) (others : List Command) : List Command :=
  match c with
  | .sequence a b => a.steps (b.steps others)
  | c => c :: others

namespace Runner

variable (r : Runner)

/-- Does what is to be done when a command has failed. -/
def runErrorTrap : Run Unit := do
  let st ← get
  if let some action := st.traps.lookup "ERR" then
    unless action.isEmpty do
      set { st with traps := st.traps.filter fun t => t.1 ≠ "ERR" }
      r.script .response action
      modify fun after =>
        { after with traps := st.traps, status := st.status, line := st.line }

/-- Looks at whether a command has failed, unless something else does. -/
def checked (body : Run Unit) : Run Unit := fun st =>
  let (ends, tested) := (st.has 'e' && !st.tested, st.tested)
  match body st with
  | (.ok (), st) =>
    if st.status = 0 || tested then (.ok (), st)
    else
      match if st.isExtended && !st.traps.isEmpty then r.runErrorTrap st else (.ok (), st) with
      | (.ok (), st) => if ends then (.error .exit, st) else (.ok (), st)
      | stopped => stopped
  | stopped => stopped

/-- Keeps the status of a command as that of a pipeline. -/
def notingStatus (body : Run Unit) : Run Unit := do
  body
  modify fun st => if st.isExtended then { st with pipeStatuses := [st.status] } else st

/-- Runs commands in order. -/
def all : List Command → State → Except Stop Unit × State
  | [], st => (.ok (), st)
  | c :: cs, st =>
    match r.command c st with
    | (.ok (), st) => all cs st
    | stopped => stopped

/-! ### Loops -/

/-- What a loop does when its body has ended: whether it goes on, or how it is stopped. -/
def afterBody (result : Except Stop Unit) (st : State) : Except Stop Bool × State :=
  match result with
  | .ok () => (.ok true, st)
  | .error (.leaveLoop again 1) => (.ok again, st)
  | .error (.leaveLoop again (n + 2)) => (.error (.leaveLoop again (n + 1)), st)
  | .error stop => (.error stop, st)

/-- Does something within a loop. -/
def withinLoop (body : State → Except Stop Unit × State) : Run Unit := fun st =>
  let depth := st.loopDepth
  let (result, after) := body { st with loopDepth := depth + 1 }
  (result, { after with loopDepth := depth })

/-- One round of a loop with a condition. The status of the loop, which the condition leaves alone,
is kept beside the state. -/
def round (expected : Bool) (condition body : Command) (st : State × Nat) :
    Except Stop Bool × (State × Nat) :=
  let (result, tested) := (Run.testing (spend *> r.command condition)) st.1
  match afterBody result tested with
  | (.error stop, s) => (.error stop, (s, st.2))
  | (.ok again, s) =>
    match result with
    | .error _ => (.ok again, (s, 0))
    | .ok () =>
      if (s.status == 0) != expected then (.ok false, (s, st.2))
      else
        match r.command body s with
        | (result, s) =>
          match afterBody result s with
          | (.ok again, s) => (.ok again, (s, s.status))
          | (.error stop, s) => (.error stop, (s, s.status))

/-- The rounds of a loop with a condition. The first argument bounds their number. -/
def rounds (expected : Bool) (condition body : Command) : Nat → State × Nat →
    Except Stop Unit × State
  | 0, st => (.error .timeUp, st.1)
  | count + 1, st =>
    match r.round expected condition body st with
    | (.ok true, st) => rounds expected condition body count st
    | (.ok false, st) => (.ok (), st.1.withStatus st.2)
    | (.error stop, st) => (.error stop, st.1)

/-- Gives the variable of a loop a value and runs the body, unless the variable is not to be
changed; tells whether it is. -/
def runFor (name : String) (value : Octets) (body : Command) : Run Bool := do
  let isGiven ←
    if (← get).isExtended then Run.tryGive ⟨name, none⟩ value
    else do
      Run.assign name value
      pure true
  if isGiven then r.command body else Run.finish 1
  return isGiven

/-- Runs the body of a loop, which has that head, for each value. -/
def forEach (head : Octets) (name : String) (body : Command) :
    List Octets → State → Except Stop Unit × State
  | [], st => (.ok (), st)
  | value :: values, st =>
    match (spend *> r.traceIfWanted head *> r.runFor name value body) st with
    | (.ok false, st) => (.ok (), st)
    | (result, st) =>
      match afterBody (result.map fun _ => ()) st with
      | (.ok true, st) => forEach head name body values st
      | (.ok false, st) => (.ok (), st)
      | (.error stop, st) => (.error stop, st)

/-- Lets the input choose one of some values, which may be listed first: the value, an empty one if
what is chosen is none of them, or nothing at the end of the input. -/
def selection (values : List Octets) (lists : Bool) : Run (Option Octets) := do
  if lists then modify fun st => st.put 2 (Selection.listing values)
  modify fun st => st.put 2 ((st.value? "PS3").getD "#? ".toList)
  Builtin.readInto []
  let st ← get
  if st.status = 0 then return some (Selection.chosen values ((st.value? "REPLY").getD []))
  else
    Run.print ['\n']
    return none

/-- The rounds of a loop that asks. An empty answer has the values listed again. The first argument
bounds their number. -/
def selections (name : String) (body : Command) (values : List Octets) : Nat → Bool → Run Unit
  | 0, _ => throw .timeUp
  | count + 1, lists => do
    spend
    match ← selection values lists with
    | none => Run.finish 1
    | some value =>
      if ((← get).value? "REPLY").all List.isEmpty then selections name body values count true
      else
        let goesOn ← fun st =>
          match r.runFor name value body st with
          | (.ok false, st) => (.ok false, st)
          | (result, st) => afterBody (result.map fun _ => ()) st
        if goesOn then
          selections name body values count (((← get).value? "REPLY").any List.isEmpty)

/-- The rounds of a loop that calculates: whether it goes on, the body, and what comes next. The
first argument bounds their number. -/
def countedRounds (condition next : Word) (body : Command) : Nat → Run Unit
  | 0 => throw .timeUp
  | count + 1 => do
    spend
    let again ← if condition.isEmpty then pure (some 1) else r.calculated condition
    if again.all (· = 0) then return
    else
      let goesOn ← fun st =>
        let (result, st) := r.command body st
        afterBody result st
      if goesOn then
        if next.isEmpty || (← r.calculated next).isSome then
          countedRounds condition next body count

/-! ### Distinctions -/

/-- Whether a text fits one of the patterns that words make. -/
def fitsOne (subject : Octets) : List Word → Run Bool
  | [] => return false
  | w :: ws => do
    let m ← r.markedText w
    let st ← get
    if fitsMarked st st.patternStyle subject m then return true else fitsOne subject ws

/-- Runs the first arm one of whose patterns a text fits, and the arms that it goes on with;
`chosen` tells that the next one is to be run, and `ran` that one has been. -/
def runArms (subject : Octets) (chosen ran : Bool) :
    List (List Word × Command × ArmEnd) → Run Unit
  | [] => unless ran do Run.finish 0
  | (patterns, body, ending) :: arms => do
    if chosen || (← r.fitsOne subject patterns) then
      r.command body
      match ending with
      | .ends => return
      | .goesOn => runArms subject true true arms
      | .looksOn => runArms subject false true arms
    else runArms subject false ran arms

/-! ### Processes -/

/-- How many commands a process may run whose output goes into a pipe, first and later, of those
that are left. What has been written when they are used up is all that is read unless more is asked
for. -/
def pipeBudgets (left : Nat) : List Nat :=
  [20000, 160000, 1280000].filter (· < left) ++ [left]

/-- What is done with the first of some budgets that is enough, or with the last. -/
def firstEnough {α : Type} (attempt : Nat → Bool × α) : List Nat → α
  | [] => (attempt 0).2
  | budget :: budgets =>
    match attempt budget, budgets with
    | (_, a), [] => a
    | (true, a), _ => a
    | (false, _), budgets => firstEnough attempt budgets

/-- The state in which the program of a command is known, if the command is a call of one. -/
def tracking (c : Command) (st : State) : State :=
  match c with
  | .simple _ _ ([.text name false] :: _) _ =>
    match isName name, st.named st.path name with
    | true, .program _ => st.track (String.ofList name)
    | _, _ => st
  | _ => st

/-- Runs a command of a pipeline with a budget; gives the buffer to which it has written unless it
is the last one, and the state of its process. -/
def stage (c : Command) (start : Nat) (input : Option Nat) (isLast : Bool) (budget : Nat)
    (st : State) : Nat × Except Stop Unit × State :=
  let child := { st.forked with clock := start, budget := budget }
  let child := match input with
    | some n => child.openAs 0 (State.bufferFile n false)
    | none => child
  let (output, child) := child.newBuffer []
  let child := if isLast then child else child.openAs 1 (State.bufferFile output true)
  let body : Run Unit := do
    r.toEnd (r.command c)
    unless isLast do
      let status := (← get).status
      r.settleWriters output
      Run.finish status
  (output, body child)

/-- Runs the commands of a pipeline: each reads what the one before it has written. They all begin
at the same time; `latest` is when the last of them has ended. -/
def pipe (start latest : Nat) (input : Option Nat) : List Command → State → Except Stop Unit × State
  | [], st => (.ok (), { st with clock := latest })
  | c :: cs, st =>
    let st := tracking c st
    let isLast := cs.isEmpty
    let attempt (budget : Nat) : Bool × (Except Stop Unit × State) :=
      let (output, result, sub) := r.stage c start input isLast budget st
      let joined := st.joined sub
      let after (status : Nat) : State :=
        { joined with
          budget := st.budget - (budget - sub.budget)
          pipeStatuses := joined.pipeStatuses ++ [status] }.withStatus status
      let goOn (status : Nat) := pipe start (max latest sub.clock) (some output) cs (after status)
      match result with
      | .error .timeUp =>
        if isLast || sub.budget ≠ 0 then (true, .error .timeUp, after sub.status)
        else
          let (result, final) := goOn 141
          if !(final.buffers[output]?).any Buffer.drained then (true, result, final)
          else (false, .error .timeUp, final)
      | .error (.killed shell signal) =>
        if shell = st.nextNumber then (true, goOn (128 + signal))
        else (true, .error (.killed shell signal), after sub.status)
      | _ => (true, goOn sub.status)
    firstEnough attempt (if isLast then [st.budget] else pipeBudgets st.budget)

/-- Runs a pipeline; its status is that of its last command or, if that is wanted, that of the last
one that has failed. -/
def pipeline (commands : List Command) : Run Unit := do
  modify fun st => { st with pipeStatuses := [] }
  fun st => r.pipe st.clock st.clock none commands st
  modify fun st =>
    if st.isOn "pipefail" then
      st.withStatus (((st.pipeStatuses.filter (· ≠ 0)).getLast?).getD 0)
    else st
  r.runTraps

/-- Puts a command into the background. What it reads is empty unless something else is said. -/
def background (c : Command) : Run Unit := fun st =>
  let st := match c with
    | .pipeline commands => commands.foldl (fun st c => tracking c st) st
    | _ => st
  let isSingle := match c with
    | .simple .. => true
    | _ => false
  let child := (st.forked.openAs 0 (OpenMode.opened .read (.device .null))).toProcess
  let opened := (st.forked.openAs 0 (OpenMode.opened .read (.device .null))).opened
  let own := st.jobs.filter fun j => j.owner = st.identity && !j.waited
  let isFree (n : Nat) : Bool := !own.any fun j => j.place = n
  let job : Job :=
    { number := st.nextNumber
      place := ((List.range (own.length + 1)).find? fun n => isFree (n + 1)).getD 0 + 1
      owner := st.identity
      command := c
      process := { child with tested := false, isSingle := isSingle }
      workingDirectory := st.files.workingDirectory
      mask := st.files.mask
      start := st.clock
      result := none
      announced := isSingle
      waited := false }
  (.ok (), { st with
    opened := opened
    nextNumber := st.nextNumber + 1
    jobs := job :: st.jobs.filter fun j =>
      st.isExtended || j.owner ≠ st.identity || !j.waited || j.place ≠ job.place
    lastJob := some st.nextNumber
    status := 0 })

/-! ### All commands -/

/-- Runs a command whose parts the runner runs, whatever the options are. -/
def runAlways (c : Command) : Run Unit :=
  match c with
  | .nothing => Run.finish 0
  | .simple line assignments words redirects =>
    r.checked (notingStatus (r.simple line assignments words redirects))
  | .redirected line redirects body => do
    modify fun st => st.atLine line
    let opened ← Run.keepingDescriptors (redirects.flatMap Redirect.descriptors) do
      if ← r.redirected redirects then
        r.command body
        return true
      else return false
    unless opened do r.checked (Run.finish (redirectFailure (← get)))
  | .sequence a b => r.all (a.steps (b.steps []))
  | .both a b => do
    Run.testing (r.command a)
    if (← get).status = 0 then r.command b
  | .either a b => do
    Run.testing (r.command a)
    if (← get).status ≠ 0 then r.command b
  | .negation a => do
    Run.testing (r.command a)
    modify fun st => st.withStatus (if st.status = 0 then 1 else 0)
  | .pipeline commands => r.checked (r.pipeline commands)
  | .background a => background a
  | .subshell line a =>
    r.checked do
      modify fun st => st.atLine line
      notingStatus (r.inChild do
        modify fun st => if st.isExtended then { st with loopDepth := 0 } else st
        r.toEnd (r.command a))
      r.runTraps
  | .choice condition yes no => do
    Run.testing (r.command condition)
    if (← get).status = 0 then r.command yes else r.command no
  | .whileLoop expected condition body =>
    withinLoop fun st => r.rounds expected condition body (st.budget + 1) (st, 0)
  | .forLoop line name words shown asks body => do
    modify fun st => st.atLine line
    unless isName name.toList do
      return ← Run.refuse 1 (SyntaxError.inQuotes name.toList ++ ": not a valid identifier".toList)
    let head := name.toList ++ " in ".toList ++ shown
    if asks then r.traceIfWanted ("select ".toList ++ head)
    match ← r.allFields words with
    | [] => Run.finish 0
    | values =>
      if asks then
        Run.finish 0
        withinLoop fun st => r.selections name body values (st.budget + 1) true st
      else withinLoop (r.forEach ("for ".toList ++ head) name body values)
  | .countedLoop line first condition next body => do
    modify fun st => (st.withStatus 0).atLine line
    if first.isEmpty || (← r.calculated first).isSome then
      withinLoop fun st => r.countedRounds condition next body (st.budget + 1) st
  | .distinction line subject shown arms => do
    modify fun st => st.atLine line
    r.traceIfWanted ("case ".toList ++ shown ++ " in".toList)
    let s ← r.text subject
    r.runArms s false false arms
  | .function name body => fun st =>
    (.ok (), { st.withStatus 0 with
      functions := (name, body) :: st.functions.filter fun f => f.1 ≠ name
      origins := if st.isExtended
        then (name, st.sources.headD st.name) :: st.origins.filter fun o => o.1 ≠ name
        else st.origins })
  | .calculation line expression => do
    modify fun st => st.atLine line
    r.checked (notingStatus (r.calculation expression))
  | .condition line p => do
    modify fun st => st.atLine line
    r.checked (notingStatus (r.condition p))

/-- Runs a command whose parts the runner runs, unless commands are only to be read. -/
def run (c : Command) : Run Unit := fun st =>
  if st.has 'n' then (.ok (), st) else r.runAlways c st

/-- What runs commands at most so deep in each other. -/
def ofDepth : Nat → Runner
  | 0 =>
    { command := fun _ => do throw (.killed (← get).number 11)
      pieces := fun _ _ f => do
        let _ ← (throw (.killed (← get).number 11) : Run Unit)
        return f }
  | depth + 1 =>
    let r := ofDepth depth
    { command := r.run
      pieces := r.addPieces }

end Runner

end CallForest.Shell
