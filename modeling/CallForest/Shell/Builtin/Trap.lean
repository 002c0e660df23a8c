import CallForest.Shell.Builtin.Environment
import CallForest.Shell.Quoting

/-!
# Signals of the extended shell

The commands `trap` and `kill` of the extended shell, which know more than signals: what is to be
done before each command, when one fails, and when a function ends.
-/

namespace CallForest.Shell

namespace Signal

/-- What can be trapped besides signals, with the numbers by which it is listed. -/
def others : List (String × Nat) := [("DEBUG", 65), ("ERR", 66), ("RETURN", 67)]

/-- The name by which actions are kept for what a text stands for. -/
def trapName? (s : Octets) : Option String :=
  let upper := String.ofList (s.map Char.toUpper)
  if others.any fun o => o.1 = upper then some upper else (number? s).bind name?

/-- The number by which what is trapped under a name is listed. -/
def trapNumber (name : String) : Nat :=
  (others.lookup name).getD ((number? name.toList).getD 0)

/-- The name of a signal of any number. -/
def longName (n : Nat) : String :=
  if n < 32 then "SIG" ++ (name? n).getD ""
  else if n = 34 then "SIGRTMIN"
  else if n < 50 then "SIGRTMIN+" ++ toString (n - 34)
  else if n < 64 then "SIGRTMAX-" ++ toString (64 - n)
  else "SIGRTMAX"

/-- All signals with their numbers, five in a line. -/
def table : Octets :=
  let numbers := (List.range 65).filter fun n => n ≠ 0 && n ≠ 32 && n ≠ 33
  (numbers.zipIdx.flatMap fun (n, i) =>
    let shown := Text.decimal n
    List.replicate (2 - shown.length) ' ' ++ shown ++ ')' :: ' ' :: (longName n).toList ++
      (if i % 5 = 4 then ['\n'] else ['\t'])) ++ ['\n']

end Signal

namespace Builtin

/-- Complains of something that is no signal. -/
def notSignal (s : Octets) : Run Unit :=
  Run.refuse 1 (s ++ ": invalid signal specification".toList)

/-- The line that says what is to be done. -/
def trapLine (name : String) (action : Octets) : Octets :=
  let isSignal := name ≠ Signal.exitName && !Signal.others.any fun o => o.1 = name
  "trap -- ".toList ++ Quoting.always action ++ ' ' :: (if isSignal then "SIG".toList else []) ++
    name.toList ++ ['\n']

/-- Says what is to be done at signals and elsewhere, or lists that. -/
def trapAll : Builtin := fun args => do
  let (given, operands) ← options "lp" "" args
  let has (c : Char) : Bool := given.any fun o => o.1 = c
  let lines (st : State) (names : List String) : Octets :=
    (names.mergeSort fun a b => Signal.trapNumber a ≤ Signal.trapNumber b).flatMap fun name =>
      ((st.traps.lookup name).map (trapLine name)).getD []
  if has 'l' then Run.say 0 Signal.table
  else if has 'p' || operands.isEmpty then
    let st ← get
    if operands.isEmpty then Run.say 0 (lines st (st.traps.map Prod.fst))
    else
      let mut status := 0
      for s in operands do
        match Signal.trapName? s with
        | some name => Run.print (lines st [name])
        | none =>
          notSignal s
          status := 1
      Run.finish status
  else
    let first := operands.headD []
    let isReset := first.all Char.isDigit && !first.isEmpty && (Signal.trapName? first).isSome
    let (action, names) : Option Octets × List Octets :=
      if isReset || (operands.length = 1 && (Signal.trapName? first).isSome) then (none, operands)
      else (if first = ['-'] then none else some first, operands.drop 1)
    if names.isEmpty then showUsage
    else
      let mut status := 0
      for s in names do
        match Signal.trapName? s with
        | none =>
          notSignal s
          status := 1
        | some name =>
          modify fun st =>
            let others := st.traps.filter fun t => t.1 ≠ name
            { st with traps := match action with
              | some a => others ++ [(name, a)]
              | none => others }
      Run.finish status

/-- Shows the numbers or names of signals. -/
def nameSignals (names : List Octets) : Run Unit := do
  if names.isEmpty then Run.say 0 Signal.table
  else
    let mut status := 0
    for s in names do
      if !s.isEmpty && s.all Char.isDigit then
        let n := keyNumber s
        let n := if 128 < n then n - 128 else n
        if n = 32 ∨ n = 33 then continue
        match Signal.name? n with
        | some name => Run.print (name.toList ++ ['\n'])
        | none =>
          notSignal s
          status := 1
      else
        match Signal.number? s with
        | some n => Run.print (Text.decimal n ++ ['\n'])
        | none =>
          notSignal s
          status := 1
    Run.finish status

/-- What the options in front of processes say: the text that names the signal, and whether signals
are to be listed. -/
structure KillOptions where
  signal : Option Octets
  lists : Bool

/-- Reads the options in front of processes, and gives them with the operands. -/
def killOptions (o : KillOptions) : List Octets → Run (KillOptions × List Octets)
  | [] => return (o, [])
  | arg :: args =>
    match arg with
    | ['-', 'l'] | ['-', 'L'] => killOptions { o with lists := true } args
    | ['-', '-'] => return (o, args)
    | ['-', '?'] => do
      showUsage
      throw .fault
    | '-' :: c :: cs => do
      if c = 's' ∨ c = 'n' then
        if cs.isEmpty then
          match args with
          | [] =>
            Run.refuse 1 (arg ++ ": option requires an argument".toList)
            throw .fault
          | s :: args => return ← killOptions { o with signal := some s } args
        if cs.head?.any fun d => if c = 's' then d.isAlpha else d.isDigit then
          return ← killOptions { o with signal := some cs } args
      if o.signal.isNone then killOptions { o with signal := some (c :: cs) } args
      else return (o, arg :: args)
    | ['-'] =>
      if o.signal.isNone then killOptions { o with signal := some [] } args
      else return (o, arg :: args)
    | _ => return (o, arg :: args)

/-- Sends signals to processes of the script; `end?` ends the one of a number by a signal, and tells
whether there is such a process. -/
def killEach (end? : Nat → Nat → Run Bool) : Builtin := fun args => do
  let (o, targets) ← killOptions ⟨none, false⟩ args
  let text := o.signal.getD "TERM".toList
  if o.lists then nameSignals targets
  else
    match Signal.number? text with
    | none => if args.isEmpty then showUsage else notSignal text
    | some signal =>
      if targets.isEmpty then showUsage
      else
        let mut status := 1
        for target in targets do
          if ← sendTo signal target then status := 0
        Run.finish status
where
  /-- Sends a signal to a process or to a command in the background; tells whether that was done. -/
  sendTo (signal : Nat) (target : Octets) : Run Bool := do
    let st ← get
    let complain (text : Octets) : Run (Option Nat) := do
      modify fun st => st.warn text
      return none
    let bare := if target.head? = some '-' then target.drop 1 else target
    let number : Option Nat ←
      if !bare.isEmpty && bare.all Char.isDigit then pure (some (keyNumber bare))
      else if bare.isEmpty then
        complain (Quoting.backquote :: target ++ "': not a pid or valid job spec".toList)
      else if target.head? ≠ some '%' then
        complain (target ++ ": arguments must be process or job IDs".toList)
      else
        let own := (Runner.ownJobs st).filter fun j => !st.isGone j
        match own[keyNumber (target.drop 1) - 1]? with
        | some job => pure (some job.number)
        | none => complain (target ++ ": no such job".toList)
    match number with
    | none => return false
    | some n =>
      let n := if n = 0 then st.number else n
      if n = st.number && !st.isSubshell then
        signalSelf signal
        return true
      else if ← end? n signal then return true
      else
        modify fun st => st.warn ('(' :: Text.decimal n ++ ") - No such process".toList)
        return false

end Builtin

end CallForest.Shell
