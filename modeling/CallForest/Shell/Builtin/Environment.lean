import CallForest.Shell.Builtin.Job
import CallForest.Shell.Builtin.Variable

/-!
# Commands on what surrounds a script

The commands of the shell that change the working directory, ask what to do when signals come, send
signals to the processes of the script, and show and set what these may use at most: a soft limit
that holds and a hard one up to which the soft one may be raised.
-/

namespace CallForest.Shell

namespace Builtin

/-! ## The working directory -/

/-- Makes a location the working directory, which is reached by that path. -/
def enter (location place : List String) : Run Unit := do
  let st ← get
  let old := Octets.ofText (pathOfPlace st.place)
  modify fun st => { st with
    files := { st.files with workingDirectory := location }
    place := place }
  let here := Octets.ofText (pathOfPlace place)
  modify fun st => (st.assign "OLDPWD" ((st.value? "PWD").getD old)).assign "PWD" here

/-- The path that a path leads to from another one if no links are looked at. Just two slashes at
its beginning stay. -/
def reached (place : List String) (path : String) : List String :=
  (Path.pieces path).foldl (fun here name =>
    if name = "." then here
    else if name = ".." then if here = [""] then here else here.dropLast
    else here ++ [name])
    (if path.startsWith "//" && !path.startsWith "///" then [""]
      else if path.startsWith "/" then [] else place)

/-- The paths that a directory may have because of `CDPATH`. -/
def directoryPaths (st : State) (path : Octets) : List Octets :=
  let isFixed := ["/".toList, "./".toList, "../".toList].any (·.isPrefixOf path) ||
    path = ['.'] || path = ['.', '.']
  match st.value? "CDPATH" with
  | some fronts =>
    if isFixed then [path]
    else
      ((fronts.splitOn ':').map fun f => if f.isEmpty then path else f ++ '/' :: path) ++ [path]
  | none => [path]

/-- A directory that a path leads to. -/
structure ReachedDirectory where
  /-- The path, in front of which a directory of `CDPATH` may stand. -/
  path : Octets
  location : List String
  /-- The path by which it is reached. -/
  place : List String

/-- The directory that a path leads to. Unless the physical path is wanted, what is in front of two
dots is left out, be it a link or not. -/
def directoryAt (isPhysical : Bool) (path : Octets) (st : State) :
    Except OsError ReachedDirectory :=
  let attempt (p : Octets) : Except OsError ReachedDirectory := do
    let place := reached st.place (Octets.toText p)
    let goal := if isPhysical then Octets.toText p else pathOfPlace place
    let target ← st.files.resolve goal
    match target.entry with
    | some (.directory _ _) =>
      .ok ⟨p, target.location, if isPhysical then target.location else place⟩
    | some _ => .error .notDirectory
    | none => .error .notFound
  (directoryPaths st path).foldl (fun found p =>
    match found with
    | .ok d => .ok d
    | .error _ => attempt p) (.error .notFound)

/-- Changes the working directory. -/
def cd : Builtin := fun args => do
  let (given, operands) ← options "LP" "" args
  let isPhysical := (given.getLast?.map Prod.fst) = some 'P'
  let st ← get
  let toOld := operands.head? = some ['-']
  let path : Octets :=
    match operands with
    | [] => (st.value? "HOME").getD []
    | ['-'] :: _ => (st.value? "OLDPWD").getD []
    | p :: _ => p
  let path := if path.isEmpty then ['.'] else path
  match directoryAt isPhysical path st with
  | .ok d =>
    enter d.location d.place
    if toOld || d.path ≠ path then
      Run.print (Octets.ofText (pathOfPlace d.place) ++ ['\n'])
    Run.finish 0
  | .error _ => Run.abort ("can't cd to ".toList ++ path)

/-- Prints the working directory. -/
def pwd : Builtin := fun args => do
  let (given, _) ← options "LP" "" args
  let st ← get
  let isPhysical := (given.getLast?.map Prod.fst) = some 'P'
  let place := if isPhysical then st.files.workingDirectory else st.place
  Run.say 0 (Octets.ofText (pathOfPlace place) ++ ['\n'])

/-- The permissions that a mask leaves, for those that a letter stands for. -/
def permissions (mask : Nat) (who : Char) (place : Nat) : Octets :=
  let bits := mask / Nat.pow 8 place % 8
  let letter (c : Char) (bit : Nat) : Octets := if bits / bit % 2 = 0 then [c] else []
  [who, '='] ++ letter 'r' 4 ++ letter 'w' 2 ++ letter 'x' 1

/-- The part of permissions that letters name, for one class of users; `all` are those that were
granted before. -/
def grantedBy (all : Nat) : Octets → Nat
  | [] => 0
  | c :: cs =>
    let bits : Nat := match c with
      | 'r' => 4
      | 'w' => 2
      | 'x' => 1
      | 'u' => all / 64 % 8
      | 'g' => all / 8 % 8
      | 'o' => all % 8
      | 'X' => if all &&& 0o111 = 0 then 0 else 1
      | _ => 0
    bits ||| grantedBy all cs

/-- What a text with letters makes of the permissions that are granted; none if it means nothing.
`now` are those that the text has come to, and `places` the classes of users that are spoken of. The
first argument bounds the number of steps. -/
def granting? (all : Nat) : Nat → Nat → Nat → Octets → Option Nat
  | 0, _, _, _ => none
  | _ + 1, now, _, [] => some now
  | steps + 1, now, places, cs =>
    let who := cs.takeWhile (· ∈ ['a', 'u', 'g', 'o'])
    let named := who.foldl (fun (n : Nat) c =>
      n ||| (match c with
        | 'a' => 0o111
        | 'u' => 0o100
        | 'g' => 0o010
        | _ => 0o001)) places
    let places := if named = 0 then 0o111 else named
    match cs.drop who.length with
    | [] => none
    | sign :: rest =>
      if sign ∉ ['=', '+', '-'] then none
      else
        let letters := rest.takeWhile (· ∈ "rwxugoXs".toList)
        let bits := grantedBy all letters * places
        let next : Nat :=
          if sign = '+' then now ||| bits
          else if sign = '-' then now &&& (0o777 ^^^ bits)
          else bits ||| (now &&& (0o777 ^^^ (places * 7)))
        match rest.drop letters.length with
        | ',' :: more => granting? all steps next 0 more
        | more =>
          if more.head?.all (· ∈ ['=', '+', '-']) then granting? all steps next places more
          else none

/-- The mask as digits. -/
def maskDigits (mask : Nat) : Octets :=
  let digits := Numeral.inBase false 8 mask
  List.replicate (4 - digits.length) '0' ++ digits

/-- Sets the permissions that new files do not get. -/
def setMask (mask : Nat) : Run Unit :=
  modify fun st => { st.withStatus 0 with files := { st.files with mask := mask } }

/-- Shows the permissions that new files do not get, or sets them. -/
def umask : Builtin := fun args => do
  let extended := (← get).isExtended
  let (given, operands) ← options (if extended then "Sp" else "S") "" args
  let has (c : Char) : Bool := given.any fun o => o.1 = c
  match operands with
  | [] =>
    let mask := (← get).files.mask
    let front := if has 'p' then "umask ".toList else []
    if !has 'S' then Run.print (front ++ maskDigits mask ++ ['\n'])
    else
      Run.print ((if has 'p' then "umask -S ".toList else []) ++ permissions mask 'u' 2 ++
        ',' :: permissions mask 'g' 1 ++ ',' :: permissions mask 'o' 0 ++ ['\n'])
    Run.finish 0
  | mode :: _ =>
    if mode.head?.any Char.isDigit then
      if mode.any fun c => c < '0' ∨ '7' < c then
        if extended then Run.refuse 1 (mode ++ ": octal number out of range".toList)
        else Run.abort ("Illegal number: ".toList ++ mode)
      else
        let mask := (Numeral.digitsFrom 8 0 mode).1
        if extended && 0o777 < mask then Run.refuse 1 (mode ++ ": octal number out of range".toList)
        else setMask (mask % 512)
    else
      let all := 0o777 ^^^ ((← get).files.mask % 512)
      match granting? all (mode.length + 1) all 0 mode with
      | some now => setMask (0o777 ^^^ now)
      | none =>
        if extended then
          let behind := mode.dropWhile (· ∈ ['a', 'u', 'g', 'o'])
          let (c, what) := match behind with
            | c :: cs =>
              if c ∈ ['=', '+', '-'] then
                ((cs.dropWhile (· ∈ "rwxugoXs".toList)).headD ',', "character")
              else (c, "operator")
            | [] => (Char.ofNat 0, "operator")
          Run.refuse 1 (Char.ofNat 96 :: c :: "': invalid symbolic mode ".toList ++ what.toList)
        else Run.abort ("Illegal mode: ".toList ++ mode)

/-! ## Signals -/

/-- Says what is to be done when signals come, or lists that. -/
def trap : Builtin := fun args => do
  let (_, operands) ← options "" "" args
  match operands with
  | [] =>
    let traps := ((← get).traps.filterMap fun t =>
      (Signal.number? t.1.toList).map fun n => (n, t.2)).mergeSort fun a b => a.1 ≤ b.1
    Run.print (Octets.ofLines (traps.map fun (n, action) =>
      "trap -- ".toList ++ quoted action ++ ' ' :: ((Signal.plainName? n).getD "").toList))
    Run.finish 0
  | first :: rest =>
    let (action, signals) : Option Octets × List Octets :=
      if rest.isEmpty || (Signal.ofDigits? first).isSome then (none, operands)
      else (if first = ['-'] then none else some first, rest)
    setTraps action signals
where
  /-- Sets what is done when signals come. -/
  setTraps (action : Option Octets) : List Octets → Run Unit
    | [] => Run.finish 0
    | s :: more => do
      match (Signal.plainNumber? 0 s).bind Signal.name? with
      | none =>
        modify fun st => st.put 2 ("trap: ".toList ++ s ++ ": bad trap\n".toList)
        Run.finish 1
      | some name =>
        modify fun st =>
          let others := st.traps.filter fun t => t.1 ≠ name
          { st with traps := match action with
            | some a => others ++ [(name, a)]
            | none => others }
        setTraps action more

/-- What is said of how `kill` is used. -/
def killUsage : Octets :=
  "Usage: kill [-s sigspec | -signum | -sigspec] [pid | job]... or\nkill -l [exitstatus]".toList

/-- Lists the names of signals. -/
def listSignals (args : List Octets) : Run Unit := do
  match args with
  | [] =>
    let names := "0" :: (List.range Signal.last).filterMap fun n => Signal.plainName? (n + 1)
    Run.print (Octets.ofLines (names.map String.toList))
    Run.finish 0
  | s :: _ =>
    let n ← number s
    match if n = 0 then none else Signal.plainName? (if 128 < n then n - 128 else n) with
    | some name =>
      Run.print (name.toList ++ ['\n'])
      Run.finish 0
    | none => Run.abort ("invalid signal number or exit status: ".toList ++ s)

/-- Sends the shell itself a signal. -/
def signalSelf (signal : Nat) : Run Unit := do
  let st ← get
  match Signal.response st.traps signal with
  | .ignored => return
  | .action => set { st with pending := st.pending ++ [signal] }
  | .death => throw (.killed st.number signal)

/-- Sends signals to processes of the script; `end?` ends the one of a number by a signal, and tells
whether there is such a process. A command in the background that is named by its place stands for a
group of processes, and there is none. -/
def kill (end? : Nat → Nat → Run Bool) : Builtin := fun args => do
  let byName (s : Octets) : Run Nat :=
    match Signal.plainNumber? 1 s with
    | some n => return n
    | none => Run.abort ("invalid signal number or name: ".toList ++ s)
  let first := args.headD []
  let direct := if first.head? = some '-' then Signal.plainNumber? 1 (first.drop 1) else none
  match direct with
  | some signal => send signal (args.drop 1)
  | none =>
    let (given, targets) ← options "l" "s" args
    let signals ← (given.filter fun o => o.1 = 's').mapM fun o => byName o.2
    if given.any fun o => o.1 = 'l' then
      if signals.isEmpty then listSignals targets
      else if targets.isEmpty then listSignals [] else Run.abort killUsage
    else send (signals.getLastD 15) targets
where
  /-- Sends a signal to processes. -/
  send (signal : Nat) (targets : List Octets) : Run Unit := do
    if targets.isEmpty then Run.abort killUsage
    let mut status := 0
    for target in targets do
      let st ← get
      let n : Option Nat ← match target with
        | '%' :: _ =>
          let _ ← Runner.jobOf target
          pure none
        | '-' :: digits => some <$> number digits
        | digits => some <$> number digits
      let n := if n = some 0 then some st.number else n
      if n = some st.number && !st.isSubshell then signalSelf signal
      else
        let found ← match n with
          | some n => end? n signal
          | none => pure false
        unless found do
          modify fun st => st.warn "No such process\n".toList
          status := 1
    Run.finish status

/-! ## Limits -/

/-- A kind of limit: its letter, its name, and the size of what it is counted in. -/
structure LimitKind where
  letter : Char
  name : String
  unit : Nat

/-- The kinds of limits, in the order in which they are listed. -/
def limitKinds : List LimitKind :=
  [⟨'t', "time(seconds)", 1⟩, ⟨'f', "file(blocks)", 512⟩, ⟨'d', "data(kbytes)", 1024⟩,
    ⟨'s', "stack(kbytes)", 1024⟩, ⟨'c', "coredump(blocks)", 512⟩, ⟨'m', "memory(kbytes)", 1024⟩,
    ⟨'l', "locked memory(kbytes)", 1024⟩, ⟨'p', "process", 1⟩, ⟨'n', "nofiles", 1⟩,
    ⟨'v', "vmemory(kbytes)", 1024⟩, ⟨'w', "locks", 1⟩, ⟨'r', "rtprio", 1⟩]

/-- The limits of the first process; those that are left out allow anything. -/
def usualLimits : List (Char × Limit) :=
  [('s', ⟨some 8388608, none⟩), ('l', ⟨some 8388608, some 8388608⟩),
    ('n', ⟨some 1048576, some 1048576⟩), ('r', ⟨some 0, some 0⟩)]

/-- A limit of the process. -/
def limitOf (st : State) (letter : Char) : Limit :=
  (st.limits.lookup letter <|> usualLimits.lookup letter).getD ⟨none, none⟩

/-- A bound as it is shown. -/
def shownBound (kind : LimitKind) : Option Nat → Octets
  | none => "unlimited".toList
  | some n => Text.decimal (n / kind.unit)

/-- Whether a bound is greater than another one. -/
def exceeds : Option Nat → Option Nat → Bool
  | _, none => false
  | none, some _ => true
  | some a, some b => b < a

/-- Shows or sets the limits of the process. -/
def ulimit : Builtin := fun args => do
  let (given, operands) ← options "HSatfdsmcnpvlwr" "" args
  let sides := (given.map Prod.fst).filter fun c => c = 'H' || c = 'S'
  let isHard := sides.getLast? ≠ some 'S'
  let isSoft := sides.getLast? ≠ some 'H'
  let letter := (((given.map Prod.fst).filter fun c => c ∉ ['H', 'S', 'a']).getLast?).getD 'f'
  let all := given.any fun o => o.1 = 'a'
  let kind := (limitKinds.find? fun k => k.letter = letter).getD ⟨'f', "", 512⟩
  let st ← get
  let bound (k : LimitKind) : Octets :=
    let l := limitOf st k.letter
    shownBound k (if isSoft then l.soft else l.hard)
  match operands with
  | [] =>
    if all then
      Run.print (limitKinds.flatMap fun k =>
        k.name.toList ++ List.replicate (20 - k.name.length) ' ' ++ ' ' :: bound k ++ ['\n'])
    else Run.print (bound kind ++ ['\n'])
  | text :: more =>
    if all || !more.isEmpty then Run.abort "too many arguments".toList
    let value : Option Nat ←
      if text = "unlimited".toList then pure none
      else if text.all Char.isDigit then
        pure (some ((Numeral.digitsFrom 10 0 text).1 * kind.unit))
      else Run.abort "bad number".toList
    let old := limitOf st letter
    let new : Limit := ⟨if isSoft then value else old.soft, if isHard then value else old.hard⟩
    if exceeds new.soft new.hard then Run.abort "error setting limit (Invalid argument)".toList
    if exceeds new.hard old.hard then
      Run.abort "error setting limit (Operation not permitted)".toList
    modify fun st => { st with limits := (letter, new) :: st.limits.filter fun l => l.1 ≠ letter }
  Run.finish 0

end Builtin

end CallForest.Shell
