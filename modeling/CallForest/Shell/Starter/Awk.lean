import CallForest.Shell.Starter.Awk.Evaluation

/-!
# Running scripts of rules

`awk` runs the rules of a script on the records of its inputs: some before the first of them, some
for each, and some behind the last.
-/

namespace CallForest.Shell

open CallForest.Awk

namespace Act

section

variable (run : CommandRunner) (functions : List Function)

/-! ## Rules -/

/-- Does the action of a rule. -/
def act (rule : Rule) : Act Unit :=
  execAll run functions maxSteps (rule.action.getD [.print false [] none])

/-- Whether a rule is meant for the record at hand; `index` is its own among the rules. -/
def isMeant (index : Nat) (p : Trigger) : Act Bool := do
  let holds (e : Expression) : Act Bool :=
    return (← eval run functions maxSteps e).isTrue
  match p with
  | .start | .finish => return false
  | .always => return true
  | .whenever e => holds e
  | .between first last =>
    if (← get).begun.contains index || (← holds first) then
      let ends ← holds last
      modify fun m =>
        let others := m.begun.filter (· ≠ index)
        { m with begun := if ends then others else index :: others }
      return true
    else return false

/-- Does the actions of the rules for the record at hand. -/
def actAll (rules : List (Rule × Nat)) : Act Unit := do
  for (rule, index) in rules do
    if ← isMeant run functions index rule.trigger then act run functions rule

/-- Goes through the records of the inputs. The first argument bounds their number. -/
def throughRecords (rules : List (Rule × Nat)) : Nat → Act Unit
  | 0 => return
  | count + 1 => do
    match ← nextRecord 10000 with
    | none => return
    | some s =>
      modify fun m => (m.counted true).setRecord s
      tryCatch (actAll run functions rules) fun jump =>
        match jump with
        | .next => return
        | .nextFile => modify ({ · with input := none })
        | jump => throw jump
      throughRecords rules count

/-- Does something, and tells whether it came to its end before the script was to exit. -/
def beforeExit (body : Act Unit) : Act Bool :=
  tryCatch (do body; return true) fun jump =>
    match jump with
    | .exit => return false
    | jump => throw jump

/-- Runs a script. -/
def script (s : Script) : Act Unit := do
  let rules := s.rules.zipIdx
  let ofKind (isKind : Trigger → Bool) : List Rule :=
    s.rules.filter fun r => isKind r.trigger
  let isStart : Trigger → Bool
    | .start => true
    | _ => false
  let isFinish : Trigger → Bool
    | .finish => true
    | _ => false
  let goesOn ← beforeExit ((ofKind isStart).forM (act run functions))
  if goesOn && s.rules.any fun r => !isStart r.trigger then
    let _ ← beforeExit (throughRecords run functions rules 1000000000)
  let _ ← beforeExit ((ofKind isFinish).forM (act run functions))

end

end Act

/-! ## The program -/

/-- What the arguments of the program ask for. -/
structure RuleRequest where
  /-- The texts of the script, which are its parts if they come from files. -/
  files : List Octets
  assignments : List Octets
  separator : Option Octets
  operands : List Octets

/-- Reads the arguments of the program, or tells what is wrong with them. -/
def RuleRequest.read (q : RuleRequest) : List Octets → Except Octets RuleRequest
  | [] => .ok q
  | arg :: args =>
    let valued (text : Octets) (use : Octets → RuleRequest) : Except Octets RuleRequest :=
      match text, args with
      | [], value :: args => (use value).read args
      | [], [] => .error ("option ".toList ++ arg ++ " lacks argument".toList)
      | text, args => (use text).read args
    match arg with
    | ['-', '-'] => .ok { q with operands := args }
    | '-' :: 'F' :: text => valued text fun s => { q with separator := some s }
    | '-' :: 'v' :: text =>
      valued text fun s => { q with assignments := q.assignments ++ [s] }
    | '-' :: 'f' :: text => valued text fun s => { q with files := q.files ++ [s] }
    | '-' :: 'W' :: text => valued text fun _ => q
    | '-' :: _ :: _ => .error ("not an option: ".toList ++ arg)
    | _ => .ok { q with operands := arg :: args }

namespace Runner

variable (r : Runner)

/-- Runs a command of a script of rules in a shell of its own. -/
def ruleCommand (become : Image → Run Unit) : CommandRunner := fun text input takes => do
  let (number, st) := (← get).newBuffer []
  set st
  let signal ← r.inOwnProcess (do
    if let some s := input then
      let (n, st) := (← get).newBuffer s
      set (st.openAs 0 (State.bufferFile n false))
    if takes then modify (·.openAs 1 (State.bufferFile number true))
    become ⟨"sh", "/bin/sh".toList, ["-c".toList, text]⟩)
  let st ← get
  return (match signal with
    | some n => 256 + n
    | none => st.status, st.bufferContent number)

/-- The text of a script: what files hold, or the first operand. -/
def ruleText (name : Octets) (q : RuleRequest) : Run (Option (Octets × List Octets)) := do
  match q.files, q.operands with
  | [], text :: operands => return some (text, operands)
  | [], [] =>
    modify fun st => (st.put 2
      ("Usage: mawk [Options] [Program] [file ...]\n").toList).withStatus 2
    return none
  | files, operands =>
    let mut text : Octets := []
    for path in files do
      let st ← get
      match st.files.read (Octets.toText path) with
      | .ok bytes => text := text ++ Octets.ofBytes bytes ++ ['\n']
      | .error e =>
        Run.failing name 2 ("cannot open \"".toList ++ path ++ "\" (".toList ++
          e.reason.toList ++ [')'])
        return none
    return some (text, operands)

/-- Runs a script of rules, which has been read, and ends with its code. -/
def runRules (become : Image → Run Unit) (name : Octets) (q : RuleRequest) (s : Script)
    (operands : List Octets) : Run Unit := do
  let run := r.ruleCommand become
  let st ← get
  let start := Memory.start (name :: operands) st.environment
  let start := match q.separator with
    | some fs => start.setGlobal "FS" (.text (unescaped fs))
    | none => start
  let start := (q.assignments.filterMap Act.assignment?).foldl (fun (m : Memory) (n, v) =>
    m.setGlobal n (.read v)) start
  let (result, m) ← (Act.script run s.functions s).run start
  let (_, m) ← (Act.closeAll run).run m
  match result with
  | .error (.fails text) =>
    let count (n : String) : Octets := Value.toText m.format (m.global n)
    Run.failing name 2 ("run time error: ".toList ++ text ++ "\n\tFILENAME=\"".toList ++
      m.globalText "FILENAME" ++ "\" FNR=".toList ++ count "FNR" ++ " NR=".toList ++ count "NR")
  | .error (.stops text) => Run.failing name 2 text
  | _ =>
    match m.outputProblem with
    | some e =>
      Run.failing name 2
        ("close failed on file \"/dev/stdout\" (".toList ++ e.reason.toList ++ [')'])
    | none => Run.finish m.code

/-- Runs a script of rules. -/
def awkProgram (become : Image → Run Unit) (name : Octets) (args : List Octets) : Run Unit := do
  match RuleRequest.read ⟨[], [], none, []⟩ args with
  | .error text =>
    if args.head? == some "--version".toList then
      Run.print "mawk 1.3.4 20200120\n".toList
      Run.finish 0
    else Run.failing name 2 text
  | .ok q =>
    match q.assignments.find? fun a => (Act.assignment? a).isNone, ← ruleText name q with
    | some a, _ => Run.failing name 2 ("improper assignment: -v ".toList ++ a)
    | none, none => return
    | none, some (text, operands) =>
      match Script.read text with
      | .error fault =>
        Run.failing name 2 ("line ".toList ++ Text.decimal fault.line ++ ": ".toList ++ fault.text)
      | .ok s => r.runRules become name q s operands

end Runner

end CallForest.Shell
