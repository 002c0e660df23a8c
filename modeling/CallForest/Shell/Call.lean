import CallForest.Shell.Assigning
import CallForest.Shell.Builtin.ExtendedRunning

/-!
# Calls

What a simple command does: its words are expanded, its redirections are done, its assignments are
made, and then a function, a command of the shell or a program is run. An error in a special command
of the shell ends the script; one in another command does not.
-/

namespace CallForest.Shell

namespace Runner

variable (r : Runner)

/-! ## What is called -/

/-- A call whose words are expanded. -/
structure Call where
  name : Octets
  args : List Octets
  /-- Whether functions and what is special about commands of the shell are left out of account. -/
  plain : Bool
  /-- The directories in which the program is looked for. -/
  path : Octets
  /-- What the arguments do that give a variable the values of a list. -/
  lists : ListArguments

/-- Runs a command of the shell. Its errors end the script only if it is special. -/
def runBuiltin (name : String) (special : Bool) (body : Run Unit) : Run Unit := fun st =>
  let outer := st.builtin
  let (result, after) := body { st with builtin := some name }
  let after := { after with builtin := outer }
  match result with
  | .error .fault => if special then (.error .fault, after) else (.ok (), after)
  | other => (other, after)

/-- How many calls of functions may be in each other. -/
def maxCalls : Nat := 1000

/-- What is trapped that functions know nothing of unless an option says so, which has a letter. -/
def functionTraps (st : State) : List String :=
  (if st.has 'E' then [] else ["ERR"]) ++ (if st.has 'T' then [] else ["DEBUG", "RETURN"])

/-- Does what is to be done when a function ends. -/
def runReturnTrap : Run Unit := do
  let st ← get
  if let some action := st.traps.lookup "RETURN" then
    unless action.isEmpty do
      r.script .response action
      Run.finish st.status

/-- Runs the body of a function with arguments. -/
def runBody (name : String) (body : Command) (args : List Octets) : Run Unit := fun st =>
  let (parameters, optionPlace) := (st.parameters, st.optionPlace)
  let (loopDepth, functionDepth, locals) := (st.loopDepth, st.functionDepth, st.locals)
  let (calls, line) := (st.calls, st.line)
  let (sources, lineOffset) := (st.sources, st.lineOffset)
  let hidden := if st.isExtended then functionTraps st else []
  let (traps, others) := st.traps.partition fun t => hidden.contains t.1
  let start := { st with
    parameters := args
    optionPlace := .start
    loopDepth := 0
    functionDepth := functionDepth + 1
    traps := others
    calls := (name, line) :: calls
    sources := if st.isExtended then (st.origins.lookup name).getD st.name :: sources else sources
    lineOffset := 0
    locals := [] :: locals }
  let (result, after) := r.command body start
  let (result, after) :=
    match result with
    | .ok () | .error .leaveFunction =>
      if after.traps.any fun t => t.1 = "RETURN" then r.runReturnTrap after else (.ok (), after)
    | stopped => (stopped, after)
  let restored := (after.locals.headD []).foldl (fun (a : State) l => a.restore l.1 l.2) after
  let kept := traps.filter fun t => !restored.traps.any fun u => u.1 = t.1
  (result, { restored with
    parameters := parameters
    optionPlace := optionPlace
    loopDepth := loopDepth
    functionDepth := functionDepth
    traps := restored.traps ++ kept
    calls := calls
    sources := sources
    lineOffset := lineOffset
    locals := locals })

/-- Runs a function with arguments, unless too many calls are in each other. -/
def runFunction (name : String) (body : Command) (args : List Octets) : Run Unit := do
  let st ← get
  if st.isExtended then
    let most := keyNumber ((st.value? "FUNCNEST").getD [])
    if most ≠ 0 && most ≤ st.functionDepth then
      Run.giveUp (name.toList ++ ": maximum function nesting level exceeded (".toList ++
        Text.decimal most ++ [')'])
    else r.runBody name body args
  else if maxCalls ≤ st.functionDepth then
    Run.abort ("Maximum function recursion depth (".toList ++ Text.decimal maxCalls ++
      ") reached".toList)
  else r.runBody name body args

/-- What the extended shell says of a program that it cannot start, and the status of that. -/
def extendedProblem (st : State) (name : Octets) (e : OsError) : Octets × Nat :=
  if '/' ∉ name && !st.path.isEmpty && e = .notFound then
    (name ++ ": command not found".toList, 127)
  else
    let entry := st.files.entry (Octets.toText name)
    match e, entry with
    | .notFound, .ok _ => (name ++ ": cannot execute: required file not found".toList, 127)
    | _, .ok (.directory _ _) => (name ++ ": ".toList ++ OsError.isDirectory.reason.toList, 126)
    | e, _ => (name ++ ": ".toList ++ e.reason.toList, if e = .notFound then 127 else 126)

/-- Whether a file is no script although it does not say so: there is a zero byte in its first line,
or it has the mark of a program. -/
def isBinary (content : Octets) : Bool :=
  let line := (content.take 80).takeWhile (· ≠ '\n')
  line.any (fun c => c.toNat = 0) || (Char.ofNat 127 :: "ELF".toList).isPrefixOf content

/-- Runs a program of the extended shell in a process of its own. -/
def runFoundProgram (path name : Octets) (args : List Octets) : Run Unit := do
  let st ← get
  let content := ((st.files.readFront 256 (Octets.toText path)).toOption.map Octets.ofBytes).getD []
  let isScript := match Loader.load st.files Loader.maxDepth path name args with
    | .error .badExecutable => true
    | _ => false
  match st.image "bash" path name args with
  | .ok image =>
    if isScript && isBinary content then
      Run.refuse 126 (name ++ ": cannot execute binary file: Exec format error".toList)
    else
      unless '/' ∈ name do
        modify (·.track (String.ofList name))
      r.inChild do
        modify (·.bind (.forPrograms "_" path))
        r.start image
  | .error e =>
    let (text, status) := extendedProblem st name e
    Run.refuse status text

/-- Runs a program in a process of its own. -/
def runProgram (path name : Octets) (args : List Octets) : Run Unit := do
  let st ← get
  if st.isExtended then r.runFoundProgram path name args
  else
    match st.image "sh" path name args with
    | .ok image =>
      unless '/' ∈ name do
        modify (·.track (String.ofList name))
      r.inChild (r.start image)
    | .error e => set ((st.warn (name ++ ": ".toList ++ startProblem e)).withStatus (startStatus e))

/-- Takes the options of `command`: what is to be told of names, or the call that is left. -/
def readCommandOptions (path : Octets) : List Octets → Run (Option Bool × Octets × List Octets)
  | [] => return (none, path, [])
  | arg :: args =>
    match arg with
    | ['-', '-'] => return (none, path, args)
    | ['-', 'v'] => do
      let (_, path, names) ← readCommandOptions path args
      return (some false, path, names)
    | ['-', 'V'] => do
      let (_, path, names) ← readCommandOptions path args
      return (some true, path, names)
    | ['-', 'p'] => readCommandOptions defaultPath args
    | ['-', 'p', 'v'] => do
      let (_, path, names) ← readCommandOptions defaultPath args
      return (some false, path, names)
    | '-' :: c :: _ => Run.abort ("Illegal option -".toList ++ [c])
    | _ => return (none, path, arg :: args)

/-- Does something as the command of the shell of a name; nothing if that fails. -/
def asBuiltin {α : Type} (name : String) (body : Run α) : Run (Option α) := fun st =>
  let (result, after) := body { st with builtin := some name }
  let after := { after with builtin := st.builtin }
  match result with
  | .error .fault => (.ok none, after)
  | .error stop => (.error stop, after)
  | .ok x => (.ok (some x), after)

/-- Runs what a call of the plain shell names. The first argument bounds how often `command` may
stand in front. -/
def runPlainCall : Nat → Call → Run Unit
  | 0, _ => return
  | steps + 1, call => do
    let st ← get
    let name := String.ofList call.name
    let function? := if call.plain || name ∈ specialNames then none else st.functions.lookup name
    match function? with
    | some body => r.runFunction name body call.args
    | none =>
      if name = "command" then
        match ← asBuiltin name (readCommandOptions call.path call.args) with
        | none => return
        | some (some verbose, path, names) =>
          runBuiltin name false (Builtin.describeAll verbose path (names.take 1))
        | some (none, _, []) => Run.finish 0
        | some (none, path, name :: args) => runPlainCall steps ⟨name, args, true, path, []⟩
      else
        match r.builtin? name with
        | some body => runBuiltin name (name ∈ specialNames && !call.plain) (body call.args)
        | none =>
          match st.programPath call.path call.name with
          | .ok path => r.runProgram path call.name call.args
          | .error e =>
            set ((st.warn (call.name ++ ": ".toList ++ startProblem e)).withStatus 127)

/-- Runs what a call of the extended shell names. The first argument bounds how often `command` or
`builtin` may stand in front. -/
def runExtendedCall : Nat → Call → Run Unit
  | 0, _ => return
  | steps + 1, call => do
    let st ← get
    let name := String.ofList call.name
    match if call.plain then none else st.functions.lookup name with
    | some body => r.runFunction name body call.args
    | none =>
      match name with
      | "command" =>
        match ← asBuiltin name (Builtin.options "pVv" "" call.args) with
        | none => return
        | some (given, operands) =>
          let has (c : Char) : Bool := given.any fun o => o.1 = c
          let path := if has 'p' then defaultPath else call.path
          match operands with
          | [] => Run.finish 0
          | next :: args =>
            if has 'v' || has 'V' then
              runBuiltin name false (Builtin.commandMeanings (has 'V') path operands)
            else runExtendedCall steps ⟨next, args, true, path, call.lists⟩
      | "builtin" =>
        match ← asBuiltin name (Builtin.options "" "" call.args) with
        | none => return
        | some (_, []) => Run.finish 0
        | some (_, next :: args) =>
          if extendedNames.contains (String.ofList next) then
            runExtendedCall steps ⟨next, args, true, call.path, call.lists⟩
          else
            runBuiltin name false (Run.refuse 1 (next ++ ": not a shell builtin".toList))
      | name =>
        match r.extendedBuiltin? call.lists name with
        | some body => runBuiltin name false (body call.args)
        | none =>
          let found :=
            if call.path.isEmpty then .ok call.name else st.programPath call.path call.name
          match found with
          | .ok path => r.runProgram path call.name call.args
          | .error e =>
            let (text, status) := extendedProblem st call.name e
            Run.refuse status text

/-- Runs what a call names. -/
def runCall (call : Call) : Run Unit := do
  let steps := 20
  if (← get).isExtended then r.runExtendedCall steps call else r.runPlainCall steps call

/-! ## Simple commands -/

/-- The commands that declare variables, so that their arguments may be assignments. -/
def declaringNames (dialect : Dialect) : List Octets :=
  (match dialect with
    | .plain => ["export", "readonly", "local"]
    | .extended => ["export", "readonly", "local", "declare", "typeset"]).map String.toList

/-- The words of a call that are expanded: its name and arguments, and what the arguments do that
give a variable the values of a list. -/
structure CallWords where
  words : List Octets
  lists : ListArguments

/-- Expands an argument that may be an assignment, as the commands that declare variables take
it. -/
def declarationFields (w : Word) : Run CallWords := do
  match Word.assignment? (← get).dialect w with
  | some (.mk name none appends [.items words]) =>
    let text := name.toList ++ (if appends then "+=".toList else ['=']) ++ shownItems words
    return ⟨[text], [(text, r.assignItems name appends words)]⟩
  | some (.mk name none appends value) =>
    let sign : Octets := if appends then ['+', '='] else ['=']
    return ⟨[name.toList ++ sign ++ (← r.variableText value)], []⟩
  | _ => return ⟨← r.fields w, []⟩

/-- Expands the arguments of a call; those that may be assignments are so only where the command
`declares` variables. -/
def argumentFields (declares : Bool) : List Word → Run CallWords
  | [] => return ⟨[], []⟩
  | w :: ws => do
    let first : CallWords ← if declares then r.declarationFields w else do
      let fields ← r.fields w
      pure ⟨fields, []⟩
    let more ← argumentFields declares ws
    return match first.words with
      | [s] => ⟨s :: more.words, first.lists ++ more.lists⟩
      | fields => ⟨fields ++ more.words, first.lists ++ more.lists⟩

/-- Expands the words of a call: those in front up to the first that comes to something tell what is
called. -/
def callFields : List Word → Run CallWords
  | [] => return ⟨[], []⟩
  | w :: ws => do
    match ← r.fields w with
    | [] => callFields ws
    | name :: args =>
      let declares := (declaringNames (← get).dialect).contains name
      let more ← r.argumentFields declares ws
      return ⟨name :: (args ++ more.words), more.lists⟩

/-- Lets programs see a variable, if it is there. -/
def showPrograms (name : String) : Run Unit :=
  modify fun st =>
    match st.binding? name with
    | some v => st.bind { v with exported := true }
    | none => st

/-- Makes assignments, and gives what is shown of them. -/
def assignAll (exported : Bool) : List Assignment → Run (List Octets)
  | [] => return []
  | a :: rest => do
    let shown ← r.assignOne a
    if exported then showPrograms a.name
    let more ← assignAll exported rest
    return shown :: more

/-- Makes assignments for a call in the extended shell, where those that are not allowed do not stop
it, and gives what is shown of them. Values of lists are taken as texts. -/
def assignForCall : List Assignment → Run (List Octets)
  | [] => return []
  | a :: rest => do
    let a : Assignment := match a with
      | .mk name index appends [.items words] =>
        .mk name index appends [.text (shownItems words) true]
      | a => a
    match a with
    | .mk name (some index) _ _ =>
      let label := name.toList ++ '[' :: Word.source index ++ [']']
      modify fun st => st.warn (SyntaxError.inQuotes label ++ ": not a valid identifier".toList)
      assignForCall rest
    | a =>
      let shown ← (fun st =>
        match r.assignOne a st with
        | (.error .nextLine, after) => (.ok [], after)
        | result => result : Run Octets)
      showPrograms a.name
      let more ← assignForCall rest
      return shown :: more

/-- Shows a command before it is run, if that is wanted. The extended shell shows each assignment in
a line. -/
def trace (assigned words : List Octets) (descriptors : List (Nat × Nat)) : Run Unit := do
  let st ← get
  if st.has 'x' then
    if st.isExtended then
      for a in assigned do
        r.traceText descriptors a
      unless words.isEmpty do
        r.traceText descriptors ([' '].intercalate (words.map Quoting.shown))
    else r.traceText descriptors ([' '].intercalate (assigned ++ words))

/-- Counts a command; a script that runs too many counts as one that does not end. -/
def spend : Run Unit := fun st =>
  match st.budget with
  | 0 => (.error .timeUp, st)
  | n + 1 => (.ok (), { st with budget := n })

/-- Does something and then lets variables be what they were before. -/
def keepingVariables (names : List String) (body : Run Unit) : Run Unit := fun st =>
  let (result, after) := body st
  (result, names.foldl (fun after n => after.restore n (st.binding? n)) after)

/-- Runs a call with assignments; `descriptors` are those under which the call is shown. -/
def runAssigned (assignments : List Assignment) (call : CallWords)
    (descriptors : List (Nat × Nat)) : Run Unit := do
  match call.words with
  | [] =>
    let assigned ← r.assignAll false assignments
    unless assigned.isEmpty do r.trace assigned [] descriptors
    modify fun st => st.withStatus st.outputStatus
  | name :: args =>
    let st ← get
    let callIn (path : Octets) : Call := ⟨name, args, false, path, call.lists⟩
    if assignments.isEmpty then
      r.trace [] call.words descriptors
      r.runCall (callIn st.path)
    else if st.isExtended then
      keepingVariables (assignments.map Assignment.name) do
        let assigned ← r.assignForCall assignments
        r.trace assigned call.words descriptors
        r.runCall (callIn (← get).path)
    else
      let text := String.ofList name
      let special := specialNames.contains text
      let function := !special && st.functions.any fun f => f.1 = text
      let run : Run Unit := do
        let assigned ← r.assignAll (!special || function) assignments
        r.trace assigned call.words descriptors
        r.runCall (callIn (← get).path)
      if special then run else keepingVariables (assignments.map Assignment.name) run

/-- Whether words call `exec`, whose redirections stay. -/
def callsExec : List Octets → Bool
  | [] => false
  | name :: args =>
    let text := String.ofList name
    text = "exec" || (text = "command" && callsExec args)

/-- Runs a call under redirections and with assignments. -/
def runRedirected (assignments : List Assignment) (redirects : List Redirect)
    (call : CallWords) : Run Unit := do
  let st ← get
  let descriptors := st.descriptors
  if redirects.isEmpty then r.runAssigned assignments call descriptors
  else
    let special := !st.isExtended && !call.words.isEmpty &&
      specialNames.contains (String.ofList (call.words.headD []))
    let kept := if callsExec call.words then [] else redirects.flatMap Redirect.descriptors
    Run.keepingDescriptors kept do
      if ← r.redirected redirects then r.runAssigned assignments call descriptors
      else if special then throw .fault

/-- Takes away the files that stood for processes while a command was run; those that were written
are read by their processes first. -/
def endSubstitutes : Run Unit := do
  let st ← get
  for (number, reader) in st.substitutes do
    let path := Octets.toText (substitutePath number)
    if let some script := reader then
      let content := ((← get).files.read path).toOption.getD []
      let status := (← get).status
      r.inChild do
        modify fun st =>
          let (n, st) := st.newBuffer (Octets.ofBytes content)
          st.openAs 0 (State.bufferFile n false)
        r.toEnd (r.command script)
      Run.finish status
    modify fun st => { st with files := (st.files.removeFile path).1 }
  modify fun st => { st with substitutes := [] }

/-- Does what is to be done before each command. -/
def runDebugTrap : Run Unit := do
  let st ← get
  if let some action := st.traps.lookup "DEBUG" then
    unless action.isEmpty do
      set { st with traps := st.traps.filter fun t => t.1 ≠ "DEBUG" }
      r.script .response action
      modify fun after => { after with traps := st.traps, status := st.status, line := st.line }

/-- Runs a simple command. -/
def simple (line : Nat) (assignments : List Assignment) (words : List Word)
    (redirects : List Redirect) : Run Unit := do
  spend
  modify fun st => { st.atLine line with outputStatus := 0 }
  if (← get).isExtended then
    unless (← get).traps.isEmpty do r.runDebugTrap
    let call ← r.callFields words
    r.runRedirected assignments redirects call
    unless (← get).substitutes.isEmpty do r.endSubstitutes
    modify fun st =>
      { st with lastWord := if call.words.isEmpty then [] else call.words.getLastD [] }
  else
    let call ← r.callFields words
    r.runRedirected assignments redirects call
  r.runTraps

end Runner

end CallForest.Shell
