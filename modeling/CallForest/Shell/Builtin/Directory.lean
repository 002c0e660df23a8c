import CallForest.Shell.Builtin.Environment

/-!
# Directories of the extended shell

The commands of the extended shell that change the working directory and remember where the script
has been.
-/

namespace CallForest.Shell.Builtin

/-- Makes the directory at a path the working directory; the result tells whether that was
possible. -/
def enterPath (isPhysical : Bool) (path : Octets) : Run (Option ReachedDirectory) := do
  match directoryAt isPhysical (if path.isEmpty then ['.'] else path) (← get) with
  | .ok d =>
    enter d.location d.place
    return some d
  | .error e =>
    Run.refuse 1 (path ++ ": ".toList ++ e.reason.toList)
    return none

/-- Changes the working directory. -/
def changeDirectory : Builtin := fun args => do
  let (given, operands) ← options "LPe@" "" args
  let st ← get
  let isPhysical :=
    ((given.filter fun o => o.1 ≠ 'e').getLast?.map Prod.fst) = some 'P' || st.has 'P'
  let from' (name : String) (path : Option Octets) : Run (Option Octets) := do
    if path.isNone then Run.refuse 1 (name.toList ++ " not set".toList)
    return path
  let goal ← match operands with
    | [] => from' "HOME" (st.value? "HOME")
    | [['-']] => from' "OLDPWD" (st.value? "OLDPWD")
    | [p] => pure (some p)
    | _ => do
      Run.refuse 1 "too many arguments".toList
      pure none
  if let some path := goal then
    if let some d ← enterPath isPhysical path then
      if operands = [['-']] || !(d.path = path || path.isEmpty) then
        Run.print (Octets.ofText (pathOfPlace d.place) ++ ['\n'])
      Run.finish 0

/-- The directories that are remembered, the working directory first. -/
def stack (st : State) : List (List String) := st.place :: st.visited

/-- A directory as it is shown: unless the `long` path is wanted, a tilde stands for the home
directory. -/
def shownDirectory (st : State) (long : Bool) (place : List String) : Octets :=
  let path := Octets.ofText (pathOfPlace place)
  match st.value? "HOME" with
  | some home =>
    if long || home.length ≤ 1 then path
    else if path = home then ['~']
    else if (home ++ ['/']).isPrefixOf path then '~' :: path.drop home.length
    else path
  | none => path

/-- Shows the directories that are remembered, in one line. -/
def showStack : Run Unit := do
  let st ← get
  Run.say 0 ([' '].intercalate ((stack st).map (shownDirectory st false)) ++ ['\n'])

/-- What an argument of the commands on remembered directories is. -/
inductive StackArgument where
  | position (n : Nat)
  | outOfRange
  | noNumber
  | path

/-- What an argument of the commands on remembered directories is, of which there are so many. -/
def stackArgument (count : Nat) (arg : Octets) : StackArgument :=
  match arg with
  | '+' :: digits | '-' :: digits =>
    if digits.isEmpty then .path
    else if !digits.all Char.isDigit then if arg.head? = some '-' then .noNumber else .path
    else
      let n := keyNumber digits
      if count ≤ n then .outOfRange
      else .position (if arg.head? = some '+' then n else count - 1 - n)
  | _ => .path

/-- Complains of an argument that is no number. -/
def notNumber (arg : Octets) : Run Unit := do
  modify fun st => st.warn (arg ++ ": invalid number".toList)
  showUsage

/-- Complains of a number that is too large. -/
def outOfRange (arg : Octets) : Run Unit :=
  Run.refuse 1 (arg ++ ": directory stack index out of range".toList)

/-- Makes a directory that is remembered the working directory. -/
def enterPlace (place : List String) (visited : List (List String)) : Run Unit := do
  if (← enterPath false (Octets.ofText (pathOfPlace place))).isSome then
    modify fun st => { st with visited := visited }
    showStack

/-- Remembers the working directory and goes to another one, or turns those that are remembered. -/
def pushd : Builtin := fun args => do
  let stays := args.head? = some ['-', 'n']
  let args := if stays then args.drop 1 else args
  let args := if args.head? = some ['-', '-'] then args.drop 1 else args
  let st ← get
  let all := stack st
  match args with
  | [] =>
    match st.visited with
    | [] => Run.refuse 1 "no other directory".toList
    | top :: rest => enterPlace top (st.place :: rest)
  | arg :: _ =>
    match stackArgument all.length arg with
    | .position n =>
      let turned := all.drop n ++ all.take n
      enterPlace (turned.headD []) (turned.drop 1)
    | .outOfRange => outOfRange arg
    | .noNumber => notNumber arg
    | .path =>
      if stays then
        set { st with visited := reached st.place (Octets.toText arg) :: st.visited }
        showStack
      else if (← enterPath false arg).isSome then
        modify fun after => { after with visited := st.place :: st.visited }
        showStack

/-- Goes back to the directory that was remembered last, or forgets one. -/
def popd : Builtin := fun args => do
  let stays := args.head? = some ['-', 'n']
  let args := if stays then args.drop 1 else args
  let st ← get
  let forget (n : Nat) : Run Unit := do
    if n = 0 && !stays then
      match st.visited with
      | top :: rest => enterPlace top rest
      | [] => return
    else
      set { st with visited := st.visited.eraseIdx (n - 1) }
      showStack
  match args with
  | arg :: _ =>
    match stackArgument (stack st).length arg with
    | .position n =>
      if st.visited.isEmpty then Run.refuse 1 "directory stack empty".toList else forget n
    | .outOfRange =>
      if st.visited.isEmpty then Run.refuse 1 "directory stack empty".toList else outOfRange arg
    | .noNumber => notNumber arg
    | .path =>
      modify fun st => st.warn (arg ++ ": invalid argument".toList)
      showUsage
  | [] => if st.visited.isEmpty then Run.refuse 1 "directory stack empty".toList else forget 0

/-- Shows the directories that are remembered. -/
def dirs : Builtin := fun args => do
  let st ← get
  let all := stack st
  let letters := args.filter fun a =>
    a.head? = some '-' && (a.drop 1).all ("clpv".toList.contains ·)
  let has (c : Char) : Bool := letters.any fun a => a.contains c
  let shown := shownDirectory st (has 'l')
  match args.filter fun a => !letters.contains a with
  | arg :: _ =>
    match stackArgument all.length arg with
    | .position n => Run.say 0 (shown (all.getD n []) ++ ['\n'])
    | .outOfRange => outOfRange (arg.drop 1)
    | .noNumber => notNumber arg
    | .path =>
      modify fun st => st.warn (arg ++ ": invalid option".toList)
      showUsage
  | [] =>
    if has 'c' then set { st.withStatus 0 with visited := [] }
    else if has 'v' then
      Run.say 0 (Octets.ofLines (all.zipIdx.map fun d =>
        let n := Text.decimal d.2
        List.replicate (2 - n.length) ' ' ++ n ++ ' ' :: ' ' :: shown d.1))
    else if has 'p' then Run.say 0 (Octets.ofLines (all.map shown))
    else Run.say 0 ([' '].intercalate (all.map shown) ++ ['\n'])

end CallForest.Shell.Builtin
