import CallForest.Shell.Builtin.Option
import CallForest.Shell.Process

/-!
# Commands in the background

How the plain shell names the commands that it runs in the background, each by a place, and the
command `jobs`, which lists them. None of them can be brought to the front.
-/

namespace CallForest.Shell

namespace Runner

variable (r : Runner)

/-- The commands in the background of this process, in order. -/
def ownJobs (st : State) : List Job :=
  (st.jobs.filter fun j => j.owner = st.identity).mergeSort fun a b => a.number ≤ b.number

/-- Complains of a name that stands for no command in the background. -/
def noJob {α : Type} (name : Octets) : Run α := Run.abort ("No such job: ".toList ++ name)

/-- The command in the background that a name stands for: a place, or a sign for the last one or the
one before. -/
def jobOf (name : Octets) : Run Job := do
  let latest := (ownJobs (← get)).reverse
  let orComplain (j : Option Job) (text : String) : Run Job :=
    match j with
    | some j => return j
    | none => Run.abort text.toList
  match name with
  | ['%'] | ['%', '%'] | ['%', '+'] => orComplain latest.head? "No current job"
  | ['%', '-'] => orComplain latest[1]? "No previous job"
  | '%' :: digits =>
    match latest.find? fun j => Text.decimal j.place = digits with
    | some j => return j
    | none => noJob name
  | _ => noJob name

/-- What is said of how a command in the background is doing. -/
def jobState (st : State) (j : Job) : Octets :=
  match j.result with
  | some (status, time) =>
    if !j.waited && st.clock ≤ time then "Running".toList
    else if j.announced && 128 < status then (Signal.description (status - 128)).toList
    else if status = 0 then "Done".toList
    else "Done(".toList ++ Text.decimal status ++ [')']
  | none => "Running".toList

/-- Whether a command in the background has ended. -/
def isDone (st : State) (j : Job) : Bool := jobState st j ≠ "Running".toList

/-- The lines that tell of a command in the background; `sign` marks the last one and the one
before, and `numbered` has the numbers of its processes shown. -/
def jobLines (st : State) (sign : Char) (numbered : Bool) (j : Job) : Octets :=
  let others := match j.command with
    | .pipeline commands => commands.length - 1
    | _ => 0
  let front := '[' :: Text.decimal j.place ++ [']', ' ', sign, ' ']
  let number := if numbered then Text.decimal j.number ++ [' '] else []
  let text := front ++ number ++ jobState st j
  let padded := text ++ List.replicate (max 1 (33 - text.length)) ' '
  if numbered then padded ++ ['\n']
  else padded ++ (List.replicate others " | ".toList).flatten ++ ['\n']

/-- Lists the commands in the background; those that have ended are forgotten. -/
def listJobs : Builtin := fun args => do
  let (given, names) ← Builtin.options "lp" "" args
  let kind := given.getLast?.map Prod.fst
  let now := (← get).clock
  unless now = 0 do r.settleUntil (now - 1)
  let wanted ← if names.isEmpty then pure (ownJobs (← get)).reverse else names.mapM jobOf
  for j in wanted do
    let st ← get
    let sign := match (ownJobs st).reverse.findIdx? fun k => k.number == j.number with
      | some 0 => '+'
      | some 1 => '-'
      | _ => ' '
    if kind = some 'p' then Run.print (Text.decimal j.number ++ ['\n'])
    else Run.print (jobLines st sign (kind = some 'l') j)
    if isDone st j then
      modify fun st => { st with jobs := st.jobs.filter fun k => k.number ≠ j.number }
  Run.finish 0

/-- Refuses to bring a command in the background to the front, or to let it go on. -/
def refuseControl : Builtin := fun args => do
  let (_, names) ← Builtin.options "" "" args
  let refuse (name : Octets) : Run Unit :=
    Run.abort ("job ".toList ++ name ++ " not created under job control".toList)
  match names with
  | [] =>
    let _ ← jobOf ['%']
    refuse "(null)".toList
  | name :: _ =>
    let _ ← jobOf name
    refuse name

end Runner

end CallForest.Shell
