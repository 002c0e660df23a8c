import CallForest.Program.Format
import CallForest.Shell.Start

/-!
# Programs that wait, and programs that only prepare others

`sleep` lets time pass, and `timeout` ends what takes too long. `nice`, `nohup`, `setsid` and
`stdbuf` change how the process of another program goes.
-/

namespace CallForest.Shell

/-- How many microseconds a second has. -/
def second : Nat := 1000000

/-- The time that a text shows, in microseconds: a number, in seconds unless a letter tells
otherwise. -/
def duration? (s : Octets) : Option Nat :=
  let factor? (letter : Octets) : Option Nat :=
    match letter with
    | [] | ['s'] => some 1
    | ['m'] => some 60
    | ['h'] => some 3600
    | ['d'] => some 86400
    | _ => none
  match FloatValue.read? .extended s with
  | some ((.finite negative m e, _), rest) =>
    if (negative && m ≠ 0) || s.isEmpty then none
    else
      (factor? rest).map fun f =>
        let (a, b) := FloatValue.power 2 (max (-1000) (min 100 e))
        (m * a * f * second + b - 1) / b
  | some ((.infinite false, _), rest) => (factor? rest).map fun f => 1000000 * 86400 * second * f
  | _ => none

/-- What is said of a text that shows no time. -/
def invalidDuration (s : Octets) : Octets :=
  "invalid time interval ".toList ++ QuotedName.ofArgument s

namespace Runner

variable (r : Runner)

/-- Lets as much time pass as its arguments name. -/
def sleepProgram (name : Octets) (args : List Octets) : Run Unit :=
  Run.withOptions ⟨[], [], false⟩ "sleep" 1 name args fun _ operands => do
    match operands, operands.filter fun a => (duration? a).isNone with
    | [], _ => Run.misuse name 1 (some "missing operand".toList)
    | _, [] =>
      r.sleep ((operands.filterMap duration?).foldl (· + ·) 0)
      Run.finish 0
    | _, wrong =>
      for a in wrong do
        Run.failing name 1 (invalidDuration a)
      Run.misuse name 1 none

/-- How `timeout` ends what takes too long: the signal, whether it says so, and whether the status
is that of what it has ended. -/
structure TimeoutStyle where
  signal : Nat
  tells : Bool
  keepsStatus : Bool

/-- Goes on as a program, but not longer than a time. If a signal ends the program, the same signal
ends this one. -/
def runWithin (become : Image → Run Unit) (name : Octets) (style : TimeoutStyle)
    (time : Nat) (words : List Octets) : Run Unit := do
  let st ← get
  let last := st.clock + time
  let bounded := time ≠ 0 && st.limit.all (last < ·)
  let body := r.inOwnProcess (startWords become name
    (fun p => "failed to run command ".toList ++ QuotedName.ofArgument p) words)
  let ended (signal : Option Nat) : Run Unit :=
    match signal with
    | some n => throw (.killed st.identity n)
    | none => return
  if !bounded then ended (← body)
  else
    let (result, after) := body { st with limit := some last }
    let after := { after with limit := st.limit }
    match result with
    | .error .timeUp =>
      let after := { after with clock := last }
      let text := name ++ ": sending signal ".toList ++
        ((Signal.name? style.signal).getD "").toList ++ " to command ".toList ++
        QuotedName.ofArgument (words.headD []) ++ ['\n']
      set (if style.tells then after.put 2 text else after)
      if style.signal = 9 then throw (.killed st.identity 9)
      Run.finish (if style.keepsStatus then 128 + style.signal else 124)
    | .error stop =>
      set after
      throw stop
    | .ok signal =>
      set after
      ended signal

/-- Runs a program, but not longer than a time. -/
def timeoutProgram (become : Image → Run Unit) (name : Octets) (args : List Octets) : Run Unit :=
  let table : OptionTable :=
    ⟨[('k', .always), ('s', .always), ('v', .never)],
      [("kill-after", 'k', .always), ("signal", 's', .always), ("verbose", 'v', .never),
        ("foreground", 'f', .never), ("preserve-status", 'p', .never)], true⟩
  Run.withOptions table "timeout" 125 name args fun given operands => do
    let wrong? := given.find? fun o =>
      (o.1 = 'k' && (duration? o.2).isNone) || (o.1 = 's' && (Signal.number? o.2).isNone)
    match wrong?, operands with
    | some (c, value), _ =>
      Run.misuse name 125 (some (if c = 'k' then invalidDuration value
        else QuotedName.ofArgument value ++ ": invalid signal".toList))
    | none, time :: word :: words =>
      match duration? time with
      | none => Run.misuse name 125 (some (invalidDuration time))
      | some d =>
        let signal := ((givenValue? given 's').bind Signal.number?).getD 15
        r.runWithin become name ⟨signal, isGiven given 'v', isGiven given 'p'⟩ d (word :: words)
    | none, _ => Run.misuse name 125 none

/-! ## Preparing a process -/

/-- What `nice` is told to add to the niceness of a process, if anything, and the words behind. The
first argument bounds the number of arguments. -/
def readAdjustment : Nat → Option Octets → List Octets →
    Except Octets (Option Octets × List Octets)
  | 0, found, args => .ok (found, args)
  | _ + 1, found, [] => .ok (found, [])
  | steps + 1, found, arg :: args =>
    match arg with
    | '-' :: c :: cs =>
      let digits := if c = '-' ∨ c = '+' then cs else c :: cs
      if digits.head?.any Char.isDigit then readAdjustment steps (some (c :: cs)) args
      else if arg = ['-', '-'] then .ok (found, args)
      else
        let table : OptionTable := ⟨[('n', .always)], [("adjustment", 'n', .always)], true⟩
        let used := if arg = ['-', 'n'] ∨ arg = "--adjustment".toList then 2 else 1
        match table.readFrom none ((arg :: args).take used) with
        | (_, .error problem) => .error problem
        | (given, .ok _) =>
          readAdjustment steps ((givenValue? given 'n').or found) ((arg :: args).drop used)
    | _ => .ok (found, arg :: args)

/-- Goes on as a program that is more or less polite to others, or tells how polite the process
is. -/
def niceProgram (become : Image → Run Unit) (name : Octets) (args : List Octets) : Run Unit := do
  match readAdjustment (args.length + 1) none args with
  | .error problem => Run.misuse name 125 (some problem)
  | .ok (found, words) =>
    match found.map fun s => (s, Numeral.decimal? s), words with
    | some (s, none), _ =>
      Run.failing name 125 ("invalid adjustment ".toList ++ QuotedName.ofArgument s)
    | some (_, some _), [] =>
      Run.misuse name 125 (some "a command must be given with an adjustment".toList)
    | none, [] =>
      let n := (← get).niceness
      Run.print ((if n < 0 then ['-'] else []) ++ Text.decimal n.natAbs ++ ['\n'])
      Run.finish 0
    | found, words =>
      let change := ((found.bind Prod.snd).getD 10)
      modify fun st => { st with niceness := max (-20) (min 19 (st.niceness + change)) }
      startWords become name QuotedName.ofArgument words

/-- Goes on as a program that takes no notice of hangups. -/
def nohupProgram (become : Image → Run Unit) (name : Octets) (args : List Octets) : Run Unit :=
  Run.withOptions ⟨[], [], true⟩ "nohup" 125 name args fun _ operands => do
    if operands.isEmpty then Run.misuse name 125 (some "missing operand".toList)
    else
      modify fun st =>
        { st with traps := ("HUP", []) :: st.traps.filter fun t => t.1 ≠ "HUP" }
      startWords become name
        (fun p => "failed to run command ".toList ++ QuotedName.always p) operands

/-- Goes on as a program in a session of its own. -/
def setsidProgram (become : Image → Run Unit) (name : Octets) (args : List Octets) : Run Unit :=
  let table := { OptionTable.ofLetters "cfw" [("ctty", 'c'), ("fork", 'f'), ("wait", 'w')] with
    operandsEnd := true }
  Run.withOptions table "setsid" 1 name args fun _ operands => do
    if operands.isEmpty then Run.misuse name 1 (some "no command specified".toList)
    else startWords become name ("failed to execute ".toList ++ ·) operands

/-- Goes on as a program whose input and output are kept back as options tell. -/
def stdbufProgram (become : Image → Run Unit) (name : Octets) (args : List Octets) : Run Unit :=
  let table : OptionTable :=
    ⟨[('i', .always), ('o', .always), ('e', .always)],
      [("input", 'i', .always), ("output", 'o', .always), ("error", 'e', .always)], true⟩
  Run.withOptions table "stdbuf" 125 name args fun given operands => do
    let isMode (s : Octets) : Bool := s = ['L'] || (size? s).toOption.isSome
    match given.find? fun o => !isMode o.2 with
    | some o => Run.failing name 125 ("invalid mode ".toList ++ QuotedName.ofArgument o.2)
    | none =>
      if operands.isEmpty then Run.misuse name 125 (some "missing operand".toList)
      else if given.isEmpty then
        Run.misuse name 125 (some "you must specify a buffering mode option".toList)
      else
        startWords become name
          (fun p => "failed to run command ".toList ++ QuotedName.ofArgument p) operands

end Runner

end CallForest.Shell
